/-
Sets of characters as ascending lists of code point ranges. A lookup stops at the first range that
ends at or after the code point, so on an ascending table it answers as an exhaustive search does.
-/
namespace DocSearch.Text

/-- Inclusive ranges of code points, in ascending order and apart from each other. -/
abbrev CharRanges := List (Nat × Nat)

namespace CharRanges

/-- Whether the first range that ends at or after `n` holds `n`. -/
def covers : CharRanges → Nat → Bool
  | [], _ => false
  | (lo, hi) :: rest, n => if n ≤ hi then lo ≤ n else covers rest n

/-- Whether the ranges are non-empty, ascending and apart from each other, from `least` on. -/
def ascending (least : Nat) : CharRanges → Bool
  | [] => true
  | (lo, hi) :: rest => least ≤ lo && lo ≤ hi && ascending (hi + 1) rest

theorem covers_eq_false_of_lt {least n : Nat} :
    ∀ {rs : CharRanges}, rs.ascending least → n < least → rs.covers n = false
  | [], _, _ => rfl
  | (lo, hi) :: _, h, hn => by
    simp only [ascending, Bool.and_eq_true, decide_eq_true_eq] at h
    have hlo : ¬ lo ≤ n := by omega
    simp [covers, show n ≤ hi by omega, hlo]

/-- On an ascending table the lookup is membership in some range. -/
theorem covers_iff {least n : Nat} :
    ∀ {rs : CharRanges}, rs.ascending least →
      (rs.covers n = true ↔ ∃ r ∈ rs, r.1 ≤ n ∧ n ≤ r.2)
  | [], _ => by simp [covers]
  | (lo, hi) :: rest, h => by
    simp only [ascending, Bool.and_eq_true, decide_eq_true_eq] at h
    obtain ⟨⟨hl, hlh⟩, hr⟩ := h
    have ih := covers_iff (n := n) hr
    have hcons : (∃ r ∈ (lo, hi) :: rest, r.1 ≤ n ∧ n ≤ r.2) ↔
        (lo ≤ n ∧ n ≤ hi) ∨ ∃ r ∈ rest, r.1 ≤ n ∧ n ≤ r.2 := by simp
    rw [hcons, ← ih, covers]
    by_cases hn : n ≤ hi
    · rw [if_pos hn, covers_eq_false_of_lt hr (by omega)]
      simp [hn]
    · rw [if_neg hn]
      simp [hn]

end CharRanges

end DocSearch.Text
