/-
What lowercasing keeps. A set of characters that the mapping neither leaves nor enters has a
character in a text exactly if it has one in the lowercase of the text. The blanks are such a set
and so is the colon: the lowercase of a word is a word, with a colon exactly where one was before.
-/
import DocSearch.Proofs.Text.Words
import DocSearch.Text.Lowercase

namespace DocSearch.Text

/-! ## Sets that the mapping neither leaves nor enters -/

namespace CharRanges

/-- Whether a set of characters has none from `lo` to `hi`. -/
def avoids (rs : CharRanges) (lo hi : Nat) : Bool := rs.all fun r => hi < r.1 || r.2 < lo

theorem covers_eq_false {lo hi n : Nat} (hlo : lo ≤ n) (hhi : n ≤ hi) :
    ∀ {rs : CharRanges}, rs.avoids lo hi → rs.covers n = false
  | [], _ => rfl
  | (a, b) :: rest, h => by
    simp only [avoids, List.all_cons, Bool.and_eq_true, Bool.or_eq_true, decide_eq_true_eq] at h
    rw [covers]
    split
    · simp only [decide_eq_false_iff_not]; omega
    · exact covers_eq_false hlo hhi h.2

/-- Whether a set avoids every run, both where it starts and where it leads. -/
def avoidsRuns (rs : CharRanges) (runs : List CaseRun) : Bool := runs.all fun r =>
  rs.avoids r.first r.last && rs.avoids (r.first + r.shift).toNat (r.last + r.shift).toNat

/-- A code point stays as it is, or moves to another one outside of the set. -/
theorem covers_apply {rs : CharRanges} {n : Nat} : ∀ {runs : List CaseRun}, rs.avoidsRuns runs →
    CaseRun.apply runs n = n ∨ rs.covers n = false ∧ rs.covers (CaseRun.apply runs n) = false
  | [], _ => .inl rfl
  | r :: rest, h => by
    simp only [avoidsRuns, List.all_cons, Bool.and_eq_true] at h
    obtain ⟨⟨hfrom, hto⟩, hrest⟩ := h
    rw [CaseRun.apply]
    split
    · split
      · exact .inr ⟨covers_eq_false (by omega) (by omega) hfrom,
          covers_eq_false (by omega) (by omega) hto⟩
      · exact .inl rfl
    · exact covers_apply hrest

/-- The characters that lowercasing treats apart, what it puts for them, and the one that stands for
a code point that is none. -/
def apart : List Char := ['\x00', 'Σ', 'σ', 'ς', 'İ', 'i', '\u0307']

/-- Whether lowercasing leaves a set to itself. -/
def kept (rs : CharRanges) : Bool := (apart.all fun c => !rs.covers c.toNat) && rs.avoidsRuns lowerRuns

theorem kept_blankRanges : kept blankRanges := by decide

theorem kept_colon : kept [(':'.toNat, ':'.toNat)] := by decide

theorem kept_opening : kept [('('.toNat, '('.toNat)] := by decide

theorem kept_closing : kept [(')'.toNat, ')'.toNat)] := by decide

end CharRanges

/-! ## Characters of a lowercase text -/

section Kept

variable {rs : CharRanges} (h : rs.kept)
include h

theorem covers_apart {c : Char} (hc : c ∈ CharRanges.apart) : rs.covers c.toNat = false := by
  simp only [CharRanges.kept, Bool.and_eq_true, List.all_eq_true] at h
  simpa using h.1 c hc

theorem avoidsRuns_of_kept : rs.avoidsRuns lowerRuns := by
  simp only [CharRanges.kept, Bool.and_eq_true] at h
  exact h.2

theorem lowerSimple_of_covers {c : Char} (hc : rs.covers c.toNat = true) : lowerSimple c = c := by
  rcases CharRanges.covers_apply (n := c.toNat) (avoidsRuns_of_kept h) with hsame | ⟨hfrom, -⟩
  · rw [lowerSimple, hsame, Char.ofNat_toNat]
  · rw [hfrom] at hc; cases hc

theorem covers_lowerSimple (c : Char) : rs.covers (lowerSimple c).toNat = rs.covers c.toNat := by
  unfold lowerSimple
  rcases CharRanges.covers_apply (n := c.toNat) (avoidsRuns_of_kept h) with hsame | ⟨hfrom, hto⟩
  · rw [hsame, Char.ofNat_toNat]
  · rw [hfrom]
    unfold Char.ofNat
    by_cases hvalid : (CaseRun.apply lowerRuns c.toNat).isValidChar
    · rw [dif_pos hvalid]
      exact hto
    · rw [dif_neg hvalid]
      exact covers_apart h (List.mem_cons_self : '\x00' ∈ CharRanges.apart)

theorem any_lowerAt (before after : List Char) (c : Char) :
    ((lowerAt before c after).any fun d => rs.covers d.toNat) = rs.covers c.toNat := by
  have hapart : ∀ d ∈ CharRanges.apart, rs.covers d.toNat = false := fun _ => covers_apart h
  simp only [CharRanges.apart, List.forall_mem_cons] at hapart
  obtain ⟨-, hcapital, hsmall, hfinal, hdotted, hi, hdot, -⟩ := hapart
  unfold lowerAt
  split
  · rename_i hc
    rw [hc, hcapital, List.any_cons, List.any_nil, Bool.or_false]
    split
    · exact hfinal
    · exact hsmall
  · split
    · rename_i hc
      rw [hc, hdotted, List.any_cons, List.any_cons, List.any_nil, hi, hdot]
      rfl
    · rw [List.any_cons, List.any_nil, Bool.or_false, covers_lowerSimple h]

-- By induction on what is left to lowercase: what comes before it only decides between characters
-- that the set does not have.
theorem any_lowerFrom : ∀ (before output cs : List Char),
    ((lowerFrom before output cs).any fun d => rs.covers d.toNat) =
      ((output.any fun d => rs.covers d.toNat) || cs.any fun d => rs.covers d.toNat)
  | _, output, [] => by simp [lowerFrom]
  | before, output, c :: after => by
    rw [lowerFrom, any_lowerFrom (c :: before), List.any_append, List.any_reverse, any_lowerAt h,
      List.any_cons, ← Bool.or_assoc, Bool.or_comm (rs.covers c.toNat)]

/-- A set that lowercasing leaves to itself has characters in both texts or in neither. -/
theorem any_lower (cs : List Char) :
    ((lower cs).any fun d => rs.covers d.toNat) = cs.any fun d => rs.covers d.toNat := by
  rw [lower, any_lowerFrom h, List.any_nil, Bool.false_or]

end Kept

theorem any_isBlank_lower (cs : List Char) : (lower cs).any isBlank = cs.any isBlank :=
  any_lower CharRanges.kept_blankRanges cs

theorem forall_isBlank_lower {cs : List Char} :
    (∀ c ∈ lower cs, isBlank c = false) ↔ ∀ c ∈ cs, isBlank c = false := by
  have h := any_isBlank_lower cs
  rw [← Bool.not_inj_iff, List.not_any_eq_all_not, List.not_any_eq_all_not, Bool.eq_iff_iff] at h
  simpa only [List.all_eq_true, Bool.not_eq_true'] using h

theorem covers_singleton_toNat {c d : Char} :
    CharRanges.covers [(d.toNat, d.toNat)] c.toNat = true ↔ c = d := by
  rw [@CharRanges.covers_iff 0 _ _ (by simp [CharRanges.ascending]), ← Char.toNat_inj]
  simp only [List.mem_singleton, exists_eq_left]
  omega

/-- A character that the mapping neither moves nor leads to is in both texts or in neither. -/
theorem mem_lower_of_kept {c : Char} (h : CharRanges.kept [(c.toNat, c.toNat)]) {cs : List Char} :
    c ∈ lower cs ↔ c ∈ cs := by
  have hany := any_lower h cs
  rw [Bool.eq_iff_iff, List.any_eq_true, List.any_eq_true] at hany
  simpa only [covers_singleton_toNat, exists_eq_right] using hany

theorem mem_colon_lower {cs : List Char} : ':' ∈ lower cs ↔ ':' ∈ cs :=
  mem_lower_of_kept CharRanges.kept_colon

theorem lowerAt_ne_nil (before after : List Char) (c : Char) : lowerAt before c after ≠ [] := by
  unfold lowerAt
  split
  · exact List.cons_ne_nil _ _
  · split <;> exact List.cons_ne_nil _ _

theorem lowerFrom_eq_nil_iff : ∀ {before output cs : List Char},
    lowerFrom before output cs = [] ↔ output = [] ∧ cs = []
  | _, _, [] => by simp [lowerFrom]
  | before, output, c :: after => by
    rw [lowerFrom, lowerFrom_eq_nil_iff]
    simp [lowerAt_ne_nil before after c]

theorem lower_eq_nil_iff {cs : List Char} : lower cs = [] ↔ cs = [] := by
  rw [lower, lowerFrom_eq_nil_iff]
  exact and_iff_right rfl

/-- The lowercase of a word is a word. -/
theorem isWord_lower {cs : List Char} : IsWord (lower cs) ↔ IsWord cs :=
  and_congr (not_congr lower_eq_nil_iff) forall_isBlank_lower

end DocSearch.Text
