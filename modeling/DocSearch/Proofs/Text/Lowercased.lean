/-
Texts in lowercase. Where the mapping moves a character it moves it to one that it leaves as it is,
and what it puts for the characters that it treats apart it leaves too. So a text in lowercase is its
own lowercase, whatever stands around its characters. Any other text can be cut where a character
ends the context: its two sides are lowercased apart.
-/
import DocSearch.Text.Lowercase

namespace DocSearch.Text

/-! ## Code points that move -/

/-- Numbers as the bits of a single one, for quick look-ups. -/
def bits (ns : List Nat) : Nat := ns.foldr (fun n m => 1 <<< n ||| m) 0

theorem testBit_bits {n : Nat} {ns : List Nat} : (bits ns).testBit n = true ↔ n ∈ ns := by
  unfold bits
  induction ns with
  | nil => simp
  | cons k ns ih =>
    rw [List.foldr_cons, Nat.testBit_or, Nat.one_shiftLeft, Nat.testBit_two_pow, Bool.or_eq_true, ih,
      decide_eq_true_iff, List.mem_cons, eq_comm]

namespace CaseRun

/-- The code points that a run moves. -/
def sources (r : CaseRun) : List Nat := List.range' r.first ((r.last - r.first) / r.step + 1) r.step

/-- Where a run leads. -/
def targets (r : CaseRun) : List Nat := r.sources.map fun (n : Nat) => (n + r.shift).toNat

/-- The code points that lowercasing moves or treats apart. -/
def unsettled : List Nat := 'Σ'.toNat :: 'İ'.toNat :: lowerRuns.flatMap sources

theorem targets_lowerRuns :
    (lowerRuns.flatMap targets).all fun n => !(bits unsettled).testBit n := by decide +kernel

theorem notMem_unsettled_of_mem_targets {n : Nat} (h : n ∈ lowerRuns.flatMap targets) :
    n ∉ unsettled := fun hn => by
  have hbit := List.all_eq_true.1 targets_lowerRuns n h
  rw [testBit_bits.2 hn] at hbit
  cases hbit

/-- A code point stays as it is, or a run that has it moves it. -/
theorem apply_eq_or_exists {n : Nat} : ∀ (runs : List CaseRun), apply runs n = n ∨
    ∃ r ∈ runs, n ∈ r.sources ∧ apply runs n = (n + r.shift).toNat
  | [] => .inl rfl
  | r :: rest => by
    rw [apply]
    split
    · split
      · rename_i hlast hrun
        obtain ⟨hfirst, hstep⟩ := hrun
        have hsteps : r.step * ((n - r.first) / r.step) = n - r.first :=
          Nat.mul_div_cancel' (Nat.dvd_of_mod_eq_zero hstep)
        have hle : (n - r.first) / r.step ≤ (r.last - r.first) / r.step :=
          Nat.div_le_div_right (Nat.sub_le_sub_right hlast _)
        -- the run has every step up to its last code point, so also the one to `n`
        have hmem : n ∈ r.sources := List.mem_range'.2 ⟨_, Nat.lt_succ_of_le hle, by omega⟩
        exact .inr ⟨r, List.mem_cons_self, hmem, rfl⟩
      · exact .inl rfl
    · refine (apply_eq_or_exists rest).imp_right ?_
      rintro ⟨r', hr', h⟩
      exact ⟨r', List.mem_cons_of_mem _ hr', h⟩

/-- A code point stays as it is, or moves to where a run leads. -/
theorem apply_eq_or {n : Nat} (runs : List CaseRun) : apply runs n = n ∨
    n ∈ runs.flatMap sources ∧ apply runs n ∈ runs.flatMap targets := by
  refine (apply_eq_or_exists runs).imp_right ?_
  rintro ⟨r, hr, hn, happly⟩
  rw [happly]
  exact ⟨List.mem_flatMap.2 ⟨r, hr, hn⟩, List.mem_flatMap.2 ⟨r, hr, List.mem_map_of_mem hn⟩⟩

theorem apply_of_notMem_unsettled {n : Nat} (h : n ∉ unsettled) : apply lowerRuns n = n :=
  (apply_eq_or lowerRuns).resolve_right fun hn =>
    h (List.mem_cons_of_mem _ (List.mem_cons_of_mem _ hn.1))

end CaseRun

/-! ## Characters in lowercase -/

/-- Whether a character stays as it is in lowercase, wherever it stands. -/
def IsLower (c : Char) : Prop := c ≠ 'Σ' ∧ c ≠ 'İ' ∧ lowerSimple c = c

instance (c : Char) : Decidable (IsLower c) := inferInstanceAs (Decidable (_ ∧ _))

theorem isLower_ofNat {n : Nat} (h : n ∉ CaseRun.unsettled) : IsLower (.ofNat n) := by
  by_cases hvalid : n.isValidChar
  · have hn : (Char.ofNat n).toNat = n := by
      unfold Char.ofNat
      rw [dif_pos hvalid]
      rfl
    rw [← hn] at h
    refine ⟨fun he => h ?_, fun he => h ?_, ?_⟩
    · rw [he]; exact List.mem_cons_self
    · rw [he]; exact List.mem_cons_of_mem _ List.mem_cons_self
    · rw [lowerSimple, CaseRun.apply_of_notMem_unsettled h, Char.ofNat_toNat]
  · -- what is no code point becomes the null character
    unfold Char.ofNat
    rw [dif_neg hvalid]
    decide

theorem isLower_lowerSimple {c : Char} (hs : c ≠ 'Σ') (hi : c ≠ 'İ') : IsLower (lowerSimple c) := by
  unfold lowerSimple
  rcases CaseRun.apply_eq_or (n := c.toNat) lowerRuns with hsame | ⟨-, htarget⟩
  · rw [hsame, Char.ofNat_toNat]
    exact ⟨hs, hi, by rw [lowerSimple, hsame, Char.ofNat_toNat]⟩
  · exact isLower_ofNat (CaseRun.notMem_unsettled_of_mem_targets htarget)

theorem isLower_of_mem_lowerAt {before after : List Char} {c d : Char}
    (h : d ∈ lowerAt before c after) : IsLower d := by
  unfold lowerAt at h
  split at h
  · rw [List.mem_singleton] at h
    rw [h]
    split <;> decide
  · rename_i hs
    split at h
    · simp only [List.mem_cons, List.not_mem_nil, or_false] at h
      rcases h with rfl | rfl <;> decide
    · rename_i hi
      rw [List.mem_singleton] at h
      rw [h]
      exact isLower_lowerSimple hs hi

-- By induction on what is left to lowercase; the output holds what came before it.
theorem mem_or_exists_of_mem_lowerFrom {d : Char} : ∀ {before output cs : List Char},
    d ∈ lowerFrom before output cs → d ∈ output ∨ ∃ c ∈ cs, ∃ bs as, d ∈ lowerAt bs c as
  | _, _, [], h => .inl (List.mem_reverse.1 h)
  | before, output, c :: after, h => by
    rw [lowerFrom] at h
    rcases mem_or_exists_of_mem_lowerFrom h with h | ⟨c', hc', h⟩
    · rcases List.mem_append.1 h with h | h
      · exact .inr ⟨c, List.mem_cons_self, before, after, List.mem_reverse.1 h⟩
      · exact .inl h
    · exact .inr ⟨c', List.mem_cons_of_mem _ hc', h⟩

/-- A character of a lowercase text is put for one of the text, in some surroundings. -/
theorem exists_of_mem_lower {d : Char} {cs : List Char} (h : d ∈ lower cs) :
    ∃ c ∈ cs, ∃ before after, d ∈ lowerAt before c after :=
  (mem_or_exists_of_mem_lowerFrom h).resolve_left List.not_mem_nil

theorem isLower_of_mem_lower {d : Char} {cs : List Char} (h : d ∈ lower cs) : IsLower d := by
  obtain ⟨c, -, before, after, hd⟩ := exists_of_mem_lower h
  exact isLower_of_mem_lowerAt hd

theorem lowerFrom_of_isLower : ∀ {before output cs : List Char}, (∀ c ∈ cs, IsLower c) →
    lowerFrom before output cs = output.reverse ++ cs
  | _, output, [], _ => by rw [lowerFrom, List.append_nil]
  | before, output, c :: after, h => by
    obtain ⟨⟨hs, hi, hsame⟩, hafter⟩ := List.forall_mem_cons.1 h
    rw [lowerFrom, lowerFrom_of_isLower hafter, lowerAt, if_neg hs, if_neg hi, hsame]
    simp

/-- Lowercasing a second time changes nothing. What stands around a character matters for the capital
sigma only, and there is none any more. -/
theorem lower_lower (cs : List Char) : lower (lower cs) = lower cs :=
  lowerFrom_of_isLower fun _ => isLower_of_mem_lower

/-! ## Characters that end a context -/

/-- Whether a text can be cut at a character: the character stays as it is, and a sigma before or
behind it finds no letter beyond it. -/
structure IsBreak (c : Char) : Prop where
  isLower : IsLower c
  noticed : isCaseIgnorable c = false
  uncased : isCased c = false

section Break

variable {c : Char} (h : IsBreak c)
include h

theorem meetsCased_append (ds : List Char) : ∀ cs : List Char, meetsCased (cs ++ c :: ds) = meetsCased cs
  | [] => by simp [meetsCased, h.noticed, h.uncased]
  | a :: cs => by
    have ih := meetsCased_append ds cs
    unfold meetsCased at ih ⊢
    rw [List.cons_append, List.dropWhile_cons, List.dropWhile_cons]
    by_cases ha : isCaseIgnorable a = true
    · rw [if_pos ha, if_pos ha]; exact ih
    · rw [if_neg ha, if_neg ha]

theorem lowerAt_append_before (before bs after : List Char) (a : Char) :
    lowerAt (before ++ c :: bs) a after = lowerAt before a after := by
  rw [lowerAt, meetsCased_append h, lowerAt]

theorem lowerAt_append_after (before after ds : List Char) (a : Char) :
    lowerAt before a (after ++ c :: ds) = lowerAt before a after := by
  rw [lowerAt, meetsCased_append h, lowerAt]

theorem lowerFrom_append_before (bs : List Char) : ∀ (before output cs : List Char),
    lowerFrom (before ++ c :: bs) output cs = lowerFrom before output cs
  | _, _, [] => by rw [lowerFrom, lowerFrom]
  | before, output, a :: cs => by
    rw [lowerFrom, lowerFrom, lowerAt_append_before h, ← List.cons_append, lowerFrom_append_before bs]

theorem lowerFrom_append_cons (ds : List Char) : ∀ (before output cs : List Char),
    lowerFrom before output (cs ++ c :: ds) =
      lowerFrom [] (lowerFrom before output cs ++ [c]).reverse ds
  | before, output, [] => by
    obtain ⟨hs, hi, hsame⟩ := h.isLower
    have hbefore := lowerFrom_append_before h before [] (c :: output) ds
    rw [List.nil_append] at hbefore ⊢
    rw [lowerFrom, lowerFrom, lowerAt, if_neg hs, if_neg hi, hsame, List.reverse_singleton,
      List.singleton_append, hbefore, List.reverse_append, List.reverse_singleton,
      List.reverse_reverse, List.singleton_append]
  | before, output, a :: cs => by
    rw [List.cons_append, lowerFrom, lowerAt_append_after h, lowerFrom_append_cons ds, lowerFrom]

end Break

theorem lowerFrom_output (before : List Char) : ∀ (output cs : List Char),
    lowerFrom before output cs = output.reverse ++ lowerFrom before [] cs := by
  intro output cs
  induction cs generalizing before output with
  | nil => simp [lowerFrom]
  | cons c cs ih =>
    rw [lowerFrom, lowerFrom, ih, ih (c :: before) (_ ++ [])]
    simp

/-- A text is lowercased on either side of a break by itself. -/
theorem lower_append_cons {c : Char} (h : IsBreak c) (cs ds : List Char) :
    lower (cs ++ c :: ds) = lower cs ++ c :: lower ds := by
  rw [lower, lowerFrom_append_cons h, lowerFrom_output, List.reverse_reverse, List.append_assoc,
    List.singleton_append, lower, lower]

end DocSearch.Text
