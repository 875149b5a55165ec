/-
Word characters in lowercase. Where the mapping moves a word character it moves it to another one,
and what it puts for the characters that it treats apart are word characters as well. So the lowercase
of a run of word characters is such a run again.
-/
import DocSearch.Proofs.Text.CharRanges
import DocSearch.Proofs.Text.Lowercased
import DocSearch.Text.Blank
import DocSearch.Text.WordChar

namespace DocSearch.Text

/-! ## The set of word characters -/

theorem ascending_wordRanges : wordRanges.ascending 0 := by decide +kernel

theorem valid_wordRanges : wordRanges.all fun r => (r.2 < 0xD800 || 0xDFFF < r.1) && r.2 < 0x110000 := by
  decide +kernel

/-- Every number in the set is a character. -/
theorem isWordChar_ofNat {n : Nat} (h : wordRanges.covers n = true) : isWordChar (.ofNat n) = true := by
  have hvalid : n.isValidChar := by
    obtain ⟨r, hr, hfirst, hlast⟩ := (CharRanges.covers_iff ascending_wordRanges).1 h
    have hrange := List.all_eq_true.1 valid_wordRanges r hr
    simp only [Bool.and_eq_true, Bool.or_eq_true, decide_eq_true_iff] at hrange
    unfold Nat.isValidChar
    omega
  unfold isWordChar Char.ofNat
  rw [dif_pos hvalid]
  exact h

theorem isBlank_of_isWordChar {c : Char} (h : isWordChar c = true) : isBlank c = false :=
  CharRanges.covers_eq_false_of_disjoint ascending_wordRanges (by decide : blankRanges.ascending 0)
    (by decide +kernel) h

/-! ## Lowercase -/

theorem targets_wordRanges : lowerRuns.all fun r => r.sources.all fun n =>
    !wordRanges.mask.testBit n || wordRanges.mask.testBit (n + r.shift).toNat := by decide +kernel

theorem isWordChar_lowerSimple {c : Char} (h : isWordChar c = true) :
    isWordChar (lowerSimple c) = true := by
  unfold lowerSimple
  rcases CaseRun.apply_eq_or_exists (n := c.toNat) lowerRuns with hsame | ⟨r, hr, hn, hmoved⟩
  · rw [hsame, Char.ofNat_toNat]
    exact h
  · -- the table was compared at every code point that a run moves, so also at this one
    have htarget := List.all_eq_true.1 (List.all_eq_true.1 targets_wordRanges r hr) _ hn
    rw [(CharRanges.covers_iff_testBit_mask ascending_wordRanges).1 h, Bool.not_true,
      Bool.false_or] at htarget
    rw [hmoved]
    exact isWordChar_ofNat ((CharRanges.covers_iff_testBit_mask ascending_wordRanges).2 htarget)

theorem isWordChar_of_mem_lowerAt {before after : List Char} {c d : Char} (h : isWordChar c = true)
    (hd : d ∈ lowerAt before c after) : isWordChar d = true := by
  unfold lowerAt at hd
  split at hd
  · rw [List.mem_singleton] at hd
    rw [hd]
    split <;> decide +kernel
  · split at hd
    · simp only [List.mem_cons, List.not_mem_nil, or_false] at hd
      rcases hd with rfl | rfl <;> decide +kernel
    · rw [List.mem_singleton] at hd
      rw [hd]
      exact isWordChar_lowerSimple h

/-- The lowercase of word characters is made of word characters. -/
theorem isWordChar_of_mem_lower {cs : List Char} (h : ∀ c ∈ cs, isWordChar c = true) :
    ∀ d ∈ lower cs, isWordChar d = true := fun d hd => by
  obtain ⟨c, hc, before, after, hd⟩ := exists_of_mem_lower hd
  exact isWordChar_of_mem_lowerAt (h c hc) hd

end DocSearch.Text
