/-
Rounding the results of arithmetic. A result is computed as a whole number with two bits that say how
much was cut off; shifting keeps what they say, so in the end the whole number nearest to the exact
value is known. A power of two that the format has is a whole number at the scale of the result, so
rounding goes past no such power, from below or from above. From above not even a sum does that is
greater by less than half a step, which is why a sum of numbers of one size stops growing.
-/
import DocSearch.Proofs.Binary64.Compare
import DocSearch.Proofs.Binary64.Nearest

namespace DocSearch

theorem IsNearest.le_of_lt {n k : Nat} {x : ℚ} (hn : IsNearest n x) (h : x < k + 1 / 2) : n ≤ k := by
  have hclose := (abs_le.1 hn.close).2
  have hlt : (n : ℚ) < k + 1 := by linarith
  exact Nat.lt_succ_iff.1 (by exact_mod_cast hlt)

/-- A power of two is a whole number at the scale of a smaller one. -/
theorem zpow_eq_mul_zpow {k e : Int} (h : e ≤ k) :
    (2 : ℚ) ^ k = ((2 ^ (k - e).toNat : ℕ) : ℚ) * 2 ^ e := by
  rw [Nat.cast_pow, Nat.cast_ofNat, ← zpow_natCast, ← zpow_add₀ two_ne_zero,
    Int.toNat_of_nonneg (by omega), sub_add_cancel]

namespace Binary64

open Float.Model Float.Model.UnpackedFloat

/-! ## Whole numbers with what was cut off -/

/-- Whether an exact value has the given whole part, and the bits say how the rest compares with zero
and with a half. -/
def Approximates (em : ExtendedMantissa) (y : ℚ) : Prop :=
  match em.roundBit, em.stickyBit with
  | false, false => y = em.mantissa
  | false, true => em.mantissa < y ∧ y < em.mantissa + 1 / 2
  | true, false => y = em.mantissa + 1 / 2
  | true, true => em.mantissa + 1 / 2 < y ∧ y < em.mantissa + 1

namespace Approximates

variable {em : ExtendedMantissa} {y : ℚ}

theorem bounds (h : Approximates em y) : (em.mantissa : ℚ) ≤ y ∧ y < em.mantissa + 1 := by
  obtain ⟨m, r, s⟩ := em
  cases r <;> cases s <;> simp only [Approximates] at h ⊢ <;> constructor <;> linarith

theorem shiftRightOne (h : Approximates em y) : Approximates em.shiftRightOne (y / 2) := by
  obtain ⟨m, r, s⟩ := em
  have hm : ((2 * (m / 2) + m % 2 : ℕ) : ℚ) = m := by rw [Nat.div_add_mod]
  push_cast at hm
  rcases Nat.mod_two_eq_zero_or_one m with hbit | hbit <;> rw [hbit] at hm <;>
    cases r <;> cases s <;>
    simp [Approximates, ExtendedMantissa.shiftRightOne, hbit] at h ⊢ <;>
    (try constructor) <;> push_cast at hm <;> linarith

theorem shiftRight (h : Approximates em y) : ∀ n : Nat, Approximates (em >>> n) (y / 2 ^ n)
  | 0 => by rw [pow_zero, div_one]; exact h
  | n + 1 => by
    rw [pow_succ, ← div_div]
    exact (shiftRight h n).shiftRightOne

/-- Halves are rounded to the even neighbour. -/
theorem isNearest (h : Approximates em y) : IsNearest em.roundedMantissa y := by
  obtain ⟨m, r, s⟩ := em
  cases r <;> cases s <;>
    simp only [Approximates, ExtendedMantissa.roundedMantissa, ExtendedMantissa.accuracy,
      Accuracy.roundToNearestEven] at h ⊢
  · subst h
    exact ⟨by norm_num, by norm_num⟩
  · have habs : |(m : ℚ) - y| = y - m := by rw [abs_sub_comm, abs_of_nonneg (by linarith)]
    exact ⟨by rw [habs]; linarith, fun he => by rw [habs] at he; linarith⟩
  · subst h
    rcases Nat.mod_two_eq_zero_or_one m with hbit | hbit <;> rw [hbit]
    · exact ⟨by norm_num, fun _ => by omega⟩
    · refine ⟨?_, fun _ => by omega⟩
      push_cast
      rw [show (m : ℚ) + 1 - (m + 1 / 2) = 1 / 2 by ring]
      norm_num
  · have habs : |((m + 1 : ℕ) : ℚ) - y| = m + 1 - y := by
      push_cast
      rw [abs_of_nonneg (by linarith)]
    exact ⟨by rw [habs]; linarith, fun he => by rw [habs] at he; linarith⟩

end Approximates

theorem approximates_exact (m : Nat) : Approximates (.ofMantissaAndAccuracy m .exact) m := rfl

theorem approximates_lt_iff {m : Nat} {y : ℚ} :
    Approximates (.ofMantissaAndAccuracy m (.inexact .lt)) y ↔ m < y ∧ y < m + 1 / 2 := Iff.rfl

theorem approximates_gt_iff {m : Nat} {y : ℚ} :
    Approximates (.ofMantissaAndAccuracy m (.inexact .gt)) y ↔ m + 1 / 2 < y ∧ y < m + 1 := Iff.rfl

/-! ## Rounded significands -/

/-- Whether `q` is the significand that `x` is rounded to at the exponent `e`: the nearest whole
number at that scale, which has all its bits unless the exponent is the least. -/
structure RoundsAt (x : ℚ) (e : Int) (q : Nat) : Prop where
  least : -1074 ≤ e
  leading : -1074 < e → (2 : ℚ) ^ (e + 52) ≤ x
  lt : x < 2 ^ (e + 53)
  nearest : IsNearest q (x / 2 ^ e)

namespace RoundsAt

variable {x : ℚ} {e k : Int} {q : Nat}

theorem le_two_pow (h : RoundsAt x e q) : q ≤ 2 ^ 53 := by
  refine h.nearest.le_of_lt ?_
  have hlt : x / 2 ^ e < 2 ^ 53 := by
    rw [div_lt_iff₀ (by positivity)]
    calc x < 2 ^ (e + 53) := h.lt
      _ = 2 ^ 53 * 2 ^ e := by rw [zpow_add₀ two_ne_zero, mul_comm]; norm_num
  push_cast
  linarith

/-- Rounding goes past no power of two from above. -/
theorem le_of_zpow_le (h : RoundsAt x e q) (hk : -1074 ≤ k) (hle : (2 : ℚ) ^ k ≤ x) :
    (2 : ℚ) ^ k ≤ q * 2 ^ e := by
  have hbelow : ∀ {j : Int}, e ≤ j → (2 : ℚ) ^ j ≤ x → (2 : ℚ) ^ j ≤ q * 2 ^ e := by
    intro j hj hle
    rw [zpow_eq_mul_zpow hj] at hle ⊢
    refine mul_le_mul_of_nonneg_right ?_ (by positivity)
    have hscaled := h.nearest.le_of_le ((le_div_iff₀ (by positivity)).2 hle)
    exact_mod_cast hscaled
  rcases le_or_gt e k with hek | hek
  · exact hbelow hek hle
  · -- the significand has its leading bit, which is worth more
    calc (2 : ℚ) ^ k ≤ 2 ^ (e + 52) := zpow_le_zpow_right₀ one_le_two (by omega)
      _ ≤ q * 2 ^ e := hbelow (by omega) (h.leading (by omega))

/-- Rounding goes past no power of two from below, and comes back to it from less than half a step
above. -/
theorem le_zpow_of_le (h : RoundsAt x e q) (hk : -1074 ≤ k)
    (hle : x ≤ (2 : ℚ) ^ k + 2 ^ (k - 54)) : q * (2 : ℚ) ^ e ≤ 2 ^ k := by
  have hpos : (0 : ℚ) < 2 ^ e := by positivity
  have hek : e ≤ k := by
    rcases h.least.lt_or_eq with hlt | heq
    · have hsum : (2 : ℚ) ^ k + 2 ^ (k - 54) < 2 ^ (k + 1) := by
        rw [zpow_add_one₀ two_ne_zero, mul_two]
        exact add_lt_add_right (zpow_lt_zpow_right₀ one_lt_two (by omega)) _
      have hexp := (zpow_lt_zpow_iff_right₀ (one_lt_two (α := ℚ))).1
        ((h.leading hlt).trans_lt (hle.trans_lt hsum))
      omega
    · omega
  rw [zpow_eq_mul_zpow hek]
  refine mul_le_mul_of_nonneg_right ?_ hpos.le
  suffices q ≤ 2 ^ (k - e).toNat by exact_mod_cast this
  refine h.nearest.le_of_lt ?_
  rw [div_lt_iff₀ hpos, add_mul, ← zpow_eq_mul_zpow hek]
  rcases le_or_gt (e + 53) k with hlarge | hsmall
  · calc x < 2 ^ (e + 53) := h.lt
      _ ≤ 2 ^ k := zpow_le_zpow_right₀ one_le_two hlarge
      _ ≤ 2 ^ k + 1 / 2 * 2 ^ e := le_add_of_nonneg_right (by positivity)
  · have hhalf : (2 : ℚ) ^ (k - 54) < 1 / 2 * 2 ^ e := by
      calc (2 : ℚ) ^ (k - 54) < 2 ^ (e - 1) := zpow_lt_zpow_right₀ one_lt_two (by omega)
        _ = 1 / 2 * 2 ^ e := by rw [zpow_sub_one₀ two_ne_zero]; ring
    linarith

theorem leading_le (h : RoundsAt x e q) (he : -1074 < e) : 2 ^ 52 ≤ q := by
  have hle := h.le_of_zpow_le (k := e + 52) (by omega) (h.leading he)
  rw [zpow_eq_mul_zpow (show e ≤ e + 52 by omega), mul_le_mul_iff_left₀ (by positivity)] at hle
  have hnat : 2 ^ (e + 52 - e).toNat ≤ q := by exact_mod_cast hle
  rwa [show (e + 52 - e).toNat = 52 by omega] at hnat

end RoundsAt

/-! ## Rounding to the format -/

/-- The unpacked number of a significand; one of 2^53 is one of 2^52 at the next exponent. -/
def ofSignificand (s : Sign) (q : Nat) (e : Int) : UnpackedFloat :=
  if h : q = 0 then .zero s
  else if q < 2 ^ 53 then .finite s q e (Nat.pos_of_ne_zero h)
  else .finite s (2 ^ 52) (e + 1) (by decide)

theorem targetExponent_eq (k : Int) :
    Format.binary64.targetExponent k = max (k - 53) (-1074) := rfl

theorem shiftToTargetExponent_of_le {m : Nat} {e : Int} {acc : Accuracy}
    (he : e ≤ Format.binary64.targetExponent (totalExponent m e)) :
    shiftToTargetExponent Format.binary64 m e acc =
      (ExtendedMantissa.ofMantissaAndAccuracy m acc >>>
        (Format.binary64.targetExponent (totalExponent m e) - e).toNat,
        Format.binary64.targetExponent (totalExponent m e)) := by
  unfold shiftToTargetExponent shiftToExponent
  simp only [Prod.mk.injEq, true_and]
  omega

/-- A significand that fits is left as it is, and one of 2^53 is halved. -/
theorem shiftToTargetExponent_exact {q : Nat} {e : Int} (he : -1074 ≤ e) (hq : q ≤ 2 ^ 53) :
    shiftToTargetExponent Format.binary64 q e .exact =
      if q < 2 ^ 53 then (⟨q, false, false⟩, e) else (⟨2 ^ 52, false, false⟩, e + 1) := by
  unfold shiftToTargetExponent shiftToExponent
  simp only
  rw [targetExponent_eq, totalExponent]
  split
  · rename_i hlt
    have hlog : q.log2 ≤ 52 := by
      rcases Nat.eq_zero_or_pos q with rfl | hpos
      · decide
      · exact Nat.lt_succ_iff.1 ((Nat.log2_lt hpos.ne').2 hlt)
    have hshift : (max ((q.log2 : Int) + 1 + e - 53) (-1074) - e).toNat = 0 := by omega
    rw [hshift]
    simp only [Nat.cast_zero, add_zero]
    rfl
  · rename_i hge
    obtain rfl : q = 2 ^ 53 := by omega
    have hshift : (max (((2 ^ 53 : Nat).log2 : Int) + 1 + e - 53) (-1074) - e).toNat = 1 := by
      rw [Nat.log2_two_pow]; omega
    rw [hshift]
    rfl

section RoundWithAccuracy

variable {s : Sign} {m : Nat} {e : Int} {acc : Accuracy} {y : ℚ}

/-- Rounding gives the number of the significand that is nearest to the exact value. -/
theorem exists_roundWithAccuracy (hm : 0 < m ∨ e ≤ -1074)
    (he : e ≤ Format.binary64.targetExponent (totalExponent m e))
    (h : Approximates (.ofMantissaAndAccuracy m acc) y) :
    ∃ q e', RoundsAt (y * 2 ^ e) e' q ∧
      roundWithAccuracy Format.binary64 s m e acc = ofSignificand s q e' := by
  have hmant : (ExtendedMantissa.ofMantissaAndAccuracy m acc).mantissa = m := by
    unfold ExtendedMantissa.ofMantissaAndAccuracy
    split <;> rfl
  obtain ⟨hlo, hhi⟩ := h.bounds
  rw [hmant] at hlo hhi
  have hpos : (0 : ℚ) < 2 ^ e := by positivity
  unfold roundWithAccuracy
  rw [shiftToTargetExponent_of_le he]
  simp only
  have hrep := h.shiftRight (Format.binary64.targetExponent (totalExponent m e) - e).toNat
  rw [targetExponent_eq, totalExponent] at he hrep ⊢
  generalize hE : max ((m.log2 : Int) + 1 + e - 53) (-1074) = E at he hrep ⊢
  have hscale : y / 2 ^ (E - e).toNat = y * 2 ^ e / 2 ^ E := by
    rw [zpow_eq_mul_zpow he, mul_div_mul_right _ _ hpos.ne']
    push_cast
    rfl
  rw [hscale] at hrep
  have hround : RoundsAt (y * 2 ^ e) E
      (ExtendedMantissa.ofMantissaAndAccuracy m acc >>> (E - e).toNat).roundedMantissa := by
    refine ⟨by omega, fun hlt => ?_, ?_, hrep.isNearest⟩
    · have hne : m ≠ 0 := by
        rintro rfl
        rw [Nat.log2_zero] at hE
        omega
      have hlead : ((2 ^ m.log2 : ℕ) : ℚ) ≤ m := by exact_mod_cast Nat.log2_self_le hne
      calc (2 : ℚ) ^ (E + 52) = 2 ^ (m.log2 + e) := by congr 1; omega
        _ = ((2 ^ m.log2 : ℕ) : ℚ) * 2 ^ e := by
          rw [zpow_add₀ two_ne_zero, zpow_natCast, Nat.cast_pow, Nat.cast_ofNat]
        _ ≤ y * 2 ^ e := mul_le_mul_of_nonneg_right (hlead.trans hlo) hpos.le
    · have hlog : ((m + 1 : ℕ) : ℚ) ≤ ((2 ^ (m.log2 + 1) : ℕ) : ℚ) := by
        exact_mod_cast Nat.lt_log2_self
      push_cast at hlog
      calc y * 2 ^ e < 2 ^ (m.log2 + 1) * 2 ^ e :=
            mul_lt_mul_of_pos_right (hhi.trans_le hlog) hpos
        _ = 2 ^ ((m.log2 : Int) + 1 + e) := by
          rw [zpow_add₀ two_ne_zero, ← Nat.cast_succ, zpow_natCast]
        _ ≤ 2 ^ (E + 53) := zpow_le_zpow_right₀ one_le_two (by omega)
  generalize ExtendedMantissa.roundedMantissa _ = q at hround ⊢
  refine ⟨q, E, hround, ?_⟩
  rw [shiftToTargetExponent_exact hround.least hround.le_two_pow]
  unfold ofSignificand
  by_cases hq : q < 2 ^ 53
  · simp only [if_pos hq]
  · simp only [if_neg hq]
    rw [dif_neg (by decide), dif_neg (by omega)]

end RoundWithAccuracy

end Binary64

end DocSearch
