/-
Sets of characters as numbers, with a bit for every code point of the set. What two large sets have in
common, and whether a set has given code points, is then seen from a few operations on numbers.
-/
import DocSearch.Text.CharRanges

namespace DocSearch.Text.CharRanges

/-- The number that has the code points of a set as its bits. -/
def mask (rs : CharRanges) : Nat :=
  rs.foldr (fun r m => (1 <<< (r.2 + 1 - r.1) - 1) <<< r.1 ||| m) 0

theorem testBit_mask {n : Nat} : ∀ {rs : CharRanges},
    rs.mask.testBit n = true ↔ ∃ r ∈ rs, r.1 ≤ n ∧ n ≤ r.2
  | [] => by simp [mask]
  | r :: rest => by
    have ih : (mask rest).testBit n = true ↔ ∃ r ∈ rest, r.1 ≤ n ∧ n ≤ r.2 := testBit_mask
    have hrun : ((1 <<< (r.2 + 1 - r.1) - 1) <<< r.1).testBit n = true ↔ r.1 ≤ n ∧ n ≤ r.2 := by
      rw [Nat.testBit_shiftLeft, Nat.one_shiftLeft, Nat.testBit_two_pow_sub_one, Bool.and_eq_true,
        decide_eq_true_iff, decide_eq_true_iff]
      omega
    unfold mask at ih ⊢
    rw [List.foldr_cons, Nat.testBit_or, Bool.or_eq_true, ih, hrun]
    simp

variable {least least' n : Nat} {rs rs' : CharRanges}

theorem covers_iff_testBit_mask (h : rs.ascending least) :
    rs.covers n = true ↔ rs.mask.testBit n = true := (covers_iff h).trans testBit_mask.symm

/-- A code point of a set is in no set that has nothing in common with it. -/
theorem covers_eq_false_of_disjoint (h : rs.ascending least) (h' : rs'.ascending least')
    (hdisjoint : rs.mask &&& rs'.mask = 0) (hn : rs.covers n = true) : rs'.covers n = false := by
  have hbit : (rs.mask &&& rs'.mask).testBit n = false := by rw [hdisjoint, Nat.zero_testBit]
  rw [Nat.testBit_and, (covers_iff_testBit_mask h).1 hn, Bool.true_and] at hbit
  rwa [← Bool.not_eq_true, covers_iff_testBit_mask h', Bool.not_eq_true]

end DocSearch.Text.CharRanges
