/-
Rounding a quotient to a finite number. A quotient that is at most the greatest finite number is not
rounded to an infinity: its exponent is in range, and its significand is a whole number of at most
53 bits before rounding and so at most 2^53 after.
-/
import Mathlib.Algebra.Order.Field.Power
import Mathlib.Algebra.Order.Ring.Rat
import Mathlib.Tactic.FieldSimp
import Mathlib.Tactic.Linarith
import Mathlib.Tactic.NormNum
import Mathlib.Tactic.Positivity
import Mathlib.Tactic.Ring
import DocSearch.Binary64.Round

namespace DocSearch

/-! ## Rounding to a whole number -/

theorem roundDiv_le {num den n : Nat} (hd : 0 < den) (h : num ≤ n * den) : roundDiv num den ≤ n := by
  have hq : num / den ≤ n := Nat.div_le_of_le_mul (by rwa [Nat.mul_comm])
  unfold roundDiv
  simp only
  split
  · rename_i hround
    -- a remainder is left, so the quotient itself is below the bound
    have hrem : 0 < num % den := by omega
    have hlt : num / den < n := by
      rw [Nat.div_lt_iff_lt_mul hd]
      refine Nat.lt_of_le_of_ne h fun he => ?_
      rw [he, Nat.mul_mod_left] at hrem
      omega
    exact hlt
  · exact hq

/-! ## Powers of two -/

theorem zpow_eq_div (e : Int) : (2 : ℚ) ^ e = (2 ^ e.toNat : ℕ) / (2 ^ (-e).toNat : ℕ) := by
  obtain ⟨n, rfl | rfl⟩ := e.eq_nat_or_neg
  · simp
  · simp [zpow_neg]

/-- Comparing a quotient with a power of two needs whole numbers only. -/
theorem zpow_le_div_iff {num den : Nat} (hd : 0 < den) (e : Int) :
    (2 : ℚ) ^ e ≤ num / den ↔ den * Nat.pow 2 e.toNat ≤ num * Nat.pow 2 (-e).toNat := by
  have hd' : (0 : ℚ) < den := by exact_mod_cast hd
  rw [zpow_eq_div, div_le_div_iff₀ (by positivity) hd', ← Nat.cast_mul, ← Nat.cast_mul, Nat.cast_le,
    Nat.mul_comm]
  rfl

theorem floorLog2_spec {num den : Nat} (hn : 0 < num) (hd : 0 < den) :
    (2 : ℚ) ^ floorLog2 num den ≤ num / den ∧ (num / den : ℚ) < 2 ^ (floorLog2 num den + 1) := by
  have hn' : (0 : ℚ) < num := by exact_mod_cast hn
  have hd' : (0 : ℚ) < den := by exact_mod_cast hd
  have hnlo : (2 : ℚ) ^ (num.log2 : Int) ≤ num := by
    rw [zpow_natCast]; exact_mod_cast Nat.log2_self_le hn.ne'
  have hnhi : (num : ℚ) < 2 ^ ((num.log2 : Int) + 1) := by
    have h : num < 2 ^ (num.log2 + 1) := Nat.lt_log2_self
    exact_mod_cast h
  have hdlo : (2 : ℚ) ^ (den.log2 : Int) ≤ den := by
    rw [zpow_natCast]; exact_mod_cast Nat.log2_self_le hd.ne'
  have hdhi : (den : ℚ) < 2 ^ ((den.log2 : Int) + 1) := by
    have h : den < 2 ^ (den.log2 + 1) := Nat.lt_log2_self
    exact_mod_cast h
  have hlo : (2 : ℚ) ^ ((num.log2 : Int) - den.log2 - 1) ≤ num / den := by
    rw [sub_sub, zpow_sub₀ two_ne_zero]
    exact div_le_div₀ hn'.le hnlo hd' hdhi.le
  have hhi : (num / den : ℚ) < 2 ^ ((num.log2 : Int) - den.log2 + 1) := by
    rw [sub_add_eq_add_sub, zpow_sub₀ two_ne_zero]
    exact div_lt_div₀ hnhi hdlo (by positivity) (by positivity)
  -- the quotient of the powers of two is off by less than a factor of two, to either side
  unfold floorLog2
  simp only
  split
  · rename_i h
    exact ⟨(zpow_le_div_iff hd _).2 h, hhi⟩
  · rename_i h
    exact ⟨hlo, by rw [sub_add_cancel]; exact lt_of_not_ge fun hle => h ((zpow_le_div_iff hd _).1 hle)⟩

namespace Binary64

/-! ## Finite numbers -/

/-- The greatest finite number. -/
def maxFinite : Nat := (2 ^ 53 - 1) * 2 ^ 971

theorem magnitude_ofMagnitude {negative : Bool} {m : Nat} (h : m ≤ infinityMagnitude) :
    (ofMagnitude negative m).magnitude = m := by
  have h63 : m < 0x8000000000000000 := h.trans_lt (by decide)
  unfold magnitude ofMagnitude
  cases negative
  · simp only [UInt64.toNat_ofNat', Bool.false_eq_true, if_false]; omega
  · simp only [UInt64.toNat_ofNat', if_true]; omega

theorem isFinite_ofMagnitude {negative : Bool} {m : Nat} (h : m < infinityMagnitude) :
    (ofMagnitude negative m).isFinite = true := by
  unfold isFinite
  rw [magnitude_ofMagnitude h.le, decide_eq_true h]

theorem cast_maxFinite : (maxFinite : ℚ) = ((2 ^ 53 - 1 : Nat) : ℚ) * 2 ^ (971 : Int) := by
  unfold maxFinite
  rw [Nat.cast_mul, Nat.cast_pow, zpow_ofNat, Nat.cast_ofNat]

theorem cast_maxFinite_lt : (maxFinite : ℚ) < 2 ^ (1024 : Int) := by
  have hpow : (2 : ℚ) ^ (1024 : Int) = 2 ^ (53 : Int) * 2 ^ (971 : Int) := by
    rw [← zpow_add₀ two_ne_zero]; rfl
  rw [cast_maxFinite, hpow]
  exact mul_lt_mul_of_pos_right (by norm_num) (by positivity)

theorem maxFinite_lt : maxFinite < 2 ^ 1024 := by exact_mod_cast cast_maxFinite_lt

/-- Before rounding, the significand is below `n` if the quotient is at most `n * 2 ^ e`. -/
theorem roundDiv_scaled_le {num den n : Nat} {e : Int} (hd : 0 < den)
    (h : (num / den : ℚ) ≤ n * 2 ^ e) :
    roundDiv (num * Nat.pow 2 (-e).toNat) (den * Nat.pow 2 e.toNat) ≤ n := by
  have hd' : (0 : ℚ) < den := by exact_mod_cast hd
  refine roundDiv_le (Nat.mul_pos hd (Nat.pow_pos (by decide))) ?_
  rw [zpow_eq_div, ← mul_div_assoc, div_le_div_iff₀ hd' (by positivity)] at h
  have hnat : num * 2 ^ (-e).toNat ≤ n * 2 ^ e.toNat * den := by exact_mod_cast h
  calc num * 2 ^ (-e).toNat ≤ n * 2 ^ e.toNat * den := hnat
    _ = n * (den * 2 ^ e.toNat) := by ring

/-- A quotient that is at most the greatest finite number becomes a finite number. -/
theorem isFinite_ofRatio {negative : Bool} {num den : Nat} (hd : 0 < den)
    (h : num ≤ maxFinite * den) : (ofRatio negative num den).isFinite = true := by
  unfold ofRatio
  split
  · exact isFinite_ofMagnitude (by decide)
  · rename_i hnum
    have hd' : (0 : ℚ) < den := by exact_mod_cast hd
    obtain ⟨hlo, hhi⟩ := floorLog2_spec (Nat.pos_of_ne_zero hnum) hd
    have hle : (num / den : ℚ) ≤ maxFinite := by
      rw [div_le_iff₀ hd']; exact_mod_cast h
    have hk : floorLog2 num den < 1024 :=
      (zpow_lt_zpow_iff_right₀ one_lt_two).1 (hlo.trans_lt (hle.trans_lt cast_maxFinite_lt))
    simp only
    generalize he : max (floorLog2 num den - 52) (-1074) = e
    refine isFinite_ofMagnitude (Nat.lt_of_le_of_lt (Nat.min_le_left _ _) ?_)
    by_cases htop : e = 971
    · -- in the last binade the significand is at most that of the greatest finite number
      have hq : roundDiv (num * Nat.pow 2 (-e).toNat) (den * Nat.pow 2 e.toNat) ≤ 2 ^ 53 - 1 := by
        refine roundDiv_scaled_le hd (hle.trans_eq ?_)
        rw [htop, cast_maxFinite]
      have h971 : (e + 1074).toNat = 2045 := by omega
      rw [h971]
      unfold infinityMagnitude
      omega
    · have hq : roundDiv (num * Nat.pow 2 (-e).toNat) (den * Nat.pow 2 e.toNat) ≤ 2 ^ 53 := by
        refine roundDiv_scaled_le hd (hhi.le.trans ?_)
        have hexp : floorLog2 num den + 1 ≤ 53 + e := by omega
        calc (2 : ℚ) ^ (floorLog2 num den + 1) ≤ 2 ^ (53 + e) := zpow_le_zpow_right₀ one_le_two hexp
          _ = ((2 ^ 53 : Nat) : ℚ) * 2 ^ e := by rw [zpow_add₀ two_ne_zero]; norm_num
      have hbelow : (e + 1074).toNat ≤ 2044 := by omega
      unfold infinityMagnitude
      omega

/-- The number of a positive count is neither of the zeros. -/
theorem magnitude_ofNat_ne_zero {n : Nat} (hn : n ≠ 0) : (ofNat n).magnitude ≠ 0 := by
  have hlog : -1 ≤ floorLog2 n 1 := by
    have h1 : Nat.log2 1 = 0 := by decide
    unfold floorLog2
    simp only [h1]
    split <;> omega
  unfold ofNat ofRatio
  rw [if_neg hn]
  simp only
  rw [magnitude_ofMagnitude (Nat.min_le_right _ _)]
  -- the exponent field alone is positive
  have hexp : 1 ≤ (max (floorLog2 n 1 - 52) (-1074) + 1074).toNat := by omega
  unfold infinityMagnitude
  omega

end Binary64

end DocSearch
