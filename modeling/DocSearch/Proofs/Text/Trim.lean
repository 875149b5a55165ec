/-
Trimming. A text is what trimming leaves with blanks around it, and what is left begins and ends with
no blank; so blanks around a text make no difference.
-/
import DocSearch.Text.Blank

namespace DocSearch.Text

/-- Whether a text is blanks only. -/
def AllBlank (cs : List Char) : Prop := ∀ c ∈ cs, isBlank c = true

/-- Whether a text does not begin with a blank. -/
def NoLeadingBlank (cs : List Char) : Prop := ∀ c, cs.head? = some c → isBlank c = false

variable {before cs after : List Char} {c : Char}

theorem AllBlank.nil : AllBlank [] := nofun

theorem AllBlank.append (hb : AllBlank before) (ha : AllBlank after) : AllBlank (before ++ after) :=
  fun _ hc => (List.mem_append.1 hc).elim (hb _) (ha _)

theorem AllBlank.reverse (h : AllBlank cs) : AllBlank cs.reverse :=
  fun _ hc => h _ (List.mem_reverse.1 hc)

theorem AllBlank.notMem (h : AllBlank cs) (hc : isBlank c = false) : c ∉ cs := fun hmem => by
  rw [h c hmem] at hc; cases hc

theorem noLeadingBlank_of_forall (h : ∀ c ∈ cs, isBlank c = false) : NoLeadingBlank cs :=
  fun _ hc => h _ (List.mem_of_head? hc)

/-! ## The front of a text -/

theorem dropWhile_append_of_noLeadingBlank (hb : AllBlank before) (h : NoLeadingBlank cs) :
    (before ++ cs).dropWhile isBlank = cs := by
  rw [List.dropWhile_append_of_pos hb]
  cases cs with
  | nil => rfl
  | cons c cs => rw [List.dropWhile_cons_of_neg (by simp [h c rfl])]

theorem exists_dropWhile (cs : List Char) : ∃ before, AllBlank before ∧
    cs = before ++ cs.dropWhile isBlank ∧ NoLeadingBlank (cs.dropWhile isBlank) := by
  refine ⟨cs.takeWhile isBlank, List.all_eq_true.1 List.all_takeWhile,
    List.takeWhile_append_dropWhile.symm, fun c hc => ?_⟩
  simpa [hc] using List.head?_dropWhile_not isBlank cs

/-! ## Both ends of a text -/

/-- What is trimmed begins and ends with no blank. -/
structure Trimmed (cs : List Char) : Prop where
  front : NoLeadingBlank cs
  back : NoLeadingBlank cs.reverse

theorem trimmed_of_forall (h : ∀ c ∈ cs, isBlank c = false) : Trimmed cs :=
  ⟨noLeadingBlank_of_forall h, noLeadingBlank_of_forall fun c hc => h c (List.mem_reverse.1 hc)⟩

theorem trim_append_append_of_trimmed (hb : AllBlank before) (ha : AllBlank after) (h : Trimmed cs) :
    trim (before ++ cs ++ after) = cs := by
  unfold trim
  cases cs with
  | nil =>
    have hnil := dropWhile_append_of_noLeadingBlank (hb.append ha) h.front
    simp only [List.append_nil] at hnil ⊢
    rw [hnil]
    rfl
  | cons c cs =>
    have hfront : NoLeadingBlank (c :: cs ++ after) := fun c hc => h.front c hc
    rw [List.append_assoc, dropWhile_append_of_noLeadingBlank hb hfront, List.reverse_append,
      dropWhile_append_of_noLeadingBlank ha.reverse h.back, List.reverse_reverse]

theorem exists_trim (cs : List Char) : ∃ before after, AllBlank before ∧ AllBlank after ∧
    cs = before ++ trim cs ++ after ∧ Trimmed (trim cs) := by
  obtain ⟨before, hb, hcs, hfront⟩ := exists_dropWhile cs
  obtain ⟨after, ha, hback, hlast⟩ := exists_dropWhile (cs.dropWhile isBlank).reverse
  have hrest : cs.dropWhile isBlank = trim cs ++ after.reverse := by
    rw [← List.reverse_inj, List.reverse_append, List.reverse_reverse, hback, trim,
      List.reverse_reverse, ← hback]
  refine ⟨before, after.reverse, hb, ha.reverse, ?_, fun c hc => hfront c ?_, ?_⟩
  · rw [List.append_assoc, ← hrest]
    exact hcs
  · -- what is left, unless it is empty, begins as the text does behind its blanks
    rw [hrest, List.head?_append, hc]
    rfl
  · rw [trim, List.reverse_reverse]
    exact hlast

/-- Blanks around a text make no difference. -/
theorem trim_append_append (hb : AllBlank before) (ha : AllBlank after) (cs : List Char) :
    trim (before ++ cs ++ after) = trim cs := by
  obtain ⟨before', after', hb', ha', hcs, htrimmed⟩ := exists_trim cs
  have hjoin : before ++ cs ++ after = (before ++ before') ++ trim cs ++ (after' ++ after) := by
    have hmiddle := congrArg (before ++ · ++ after) hcs
    simpa only [List.append_assoc] using hmiddle
  rw [hjoin, trim_append_append_of_trimmed (hb.append hb') (ha'.append ha) htrimmed]

theorem trim_append_left (hb : AllBlank before) (cs : List Char) : trim (before ++ cs) = trim cs := by
  simpa using trim_append_append hb .nil cs

theorem trim_append_right (ha : AllBlank after) (cs : List Char) : trim (cs ++ after) = trim cs := by
  simpa using trim_append_append .nil ha cs

theorem trim_of_forall (h : ∀ c ∈ cs, isBlank c = false) : trim cs = cs := by
  simpa using trim_append_append_of_trimmed .nil .nil (trimmed_of_forall h)

theorem mem_of_mem_trim (h : c ∈ trim cs) : c ∈ cs := by
  obtain ⟨before, after, -, -, hcs, -⟩ := exists_trim cs
  rw [hcs]
  exact List.mem_append_left _ (List.mem_append_right _ h)

theorem trim_eq_nil_iff : trim cs = [] ↔ AllBlank cs := by
  constructor
  · intro h
    obtain ⟨before, after, hb, ha, hcs, -⟩ := exists_trim cs
    rw [h, List.append_nil] at hcs
    exact hcs ▸ hb.append ha
  · intro h
    have hnil := trim_append_left h []
    rw [List.append_nil] at hnil
    exact hnil

end DocSearch.Text
