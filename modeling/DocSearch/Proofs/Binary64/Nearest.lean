/-
The nearest number. A quotient is rounded to a finite number that no other is closer to, and a
number is printed as the nearest decimal, of two the even one. So a printed decimal is no farther
from the number that it is read as than from the one that it was printed for, and it is printed for
both.
-/
import Mathlib.Algebra.Order.Ring.Abs
import DocSearch.Proofs.Binary64.Fixed

namespace DocSearch

/-! ## Nearest whole numbers -/

/-- Whether a whole number is nearest to `x`, of two the even one. -/
structure IsNearest (n : Nat) (x : ℚ) : Prop where
  close : |(n : ℚ) - x| ≤ 1 / 2
  even : |(n : ℚ) - x| = 1 / 2 → n % 2 = 0

/-- Different whole numbers are at least one apart. -/
theorem one_le_abs_sub {n k : Int} (h : n ≠ k) : (1 : ℚ) ≤ |(n : ℚ) - k| := by
  have hone : 1 ≤ |n - k| := Int.one_le_abs (sub_ne_zero.2 h)
  exact_mod_cast hone

namespace IsNearest

variable {n k : Nat} {x y : ℚ}

theorem eq (hn : IsNearest n x) (hk : IsNearest k x) : n = k := by
  by_contra hne
  have hone := one_le_abs_sub (n := n) (k := k) (by exact_mod_cast hne)
  push_cast at hone
  have htri : |(n : ℚ) - k| ≤ |(n : ℚ) - x| + |(k : ℚ) - x| := by
    rw [abs_sub_comm (k : ℚ) x]; exact abs_sub_le _ _ _
  have hnclose := hn.close
  have hkclose := hk.close
  -- both are half a unit away, to either side, so both are even and one apart
  have hneven := hn.even (by linarith)
  have hkeven := hk.even (by linarith)
  have hle : |(n : Int) - k| ≤ 1 := by
    have hle : |(n : ℚ) - k| ≤ 1 := by linarith
    exact_mod_cast hle
  rw [abs_le] at hle
  omega

/-- No whole number is closer. -/
theorem le (hn : IsNearest n x) (k : Int) : |(n : ℚ) - x| ≤ |(k : ℚ) - x| := by
  rcases eq_or_ne (n : Int) k with h | h
  · rw [← h, Int.cast_natCast]
  · have hone := one_le_abs_sub h
    push_cast at hone
    have htri : |(n : ℚ) - k| ≤ |(n : ℚ) - x| + |(k : ℚ) - x| := by
      rw [abs_sub_comm (k : ℚ) x]; exact abs_sub_le _ _ _
    have hclose := hn.close
    linarith

theorem le_of_le (hn : IsNearest n x) (h : (k : ℚ) ≤ x) : k ≤ n := by
  have hclose := (abs_le.1 hn.close).1
  have hlt : (k : ℚ) < n + 1 := by linarith
  exact Nat.lt_succ_iff.1 (by exact_mod_cast hlt)

/-- What is no farther away has the same nearest whole number. -/
theorem of_le (hn : IsNearest n x) (h : |(n : ℚ) - y| ≤ |(n : ℚ) - x|) : IsNearest n y :=
  ⟨h.trans hn.close, fun hy => hn.even (le_antisymm hn.close (hy ▸ h))⟩

end IsNearest

/-- A quotient is its whole part and what is left of the division. -/
theorem div_eq_div_add_mod_div (num : Nat) {den : Nat} (hd : 0 < den) :
    (num / den : ℚ) = (num / den : ℕ) + (num % den : ℕ) / den := by
  have hd' : (0 : ℚ) < den := by exact_mod_cast hd
  have h : ((den * (num / den) + num % den : ℕ) : ℚ) = num := by rw [Nat.div_add_mod]
  push_cast at h
  field_simp
  linarith

section Rest

variable {den : Nat} (hd : 0 < den)
include hd

theorem mod_div_lt_one (num : Nat) : ((num % den : ℕ) : ℚ) / den < 1 := by
  have hd' : (0 : ℚ) < den := by exact_mod_cast hd
  rw [div_lt_one hd']
  exact_mod_cast Nat.mod_lt num hd

theorem div_lt_half_iff (r : Nat) : (r : ℚ) / den < 1 / 2 ↔ 2 * r < den := by
  have hd' : (0 : ℚ) < den := by exact_mod_cast hd
  rw [div_lt_div_iff₀ hd' two_pos, one_mul, mul_comm]
  exact_mod_cast Iff.rfl

theorem div_eq_half_iff (r : Nat) : (r : ℚ) / den = 1 / 2 ↔ 2 * r = den := by
  have hd' : (0 : ℚ) < den := by exact_mod_cast hd
  rw [div_eq_div_iff hd'.ne' two_ne_zero, one_mul, mul_comm]
  exact_mod_cast Iff.rfl

end Rest

theorem isNearest_roundDiv {num den : Nat} (hd : 0 < den) :
    IsNearest (roundDiv num den) (num / den) := by
  have hd' : (0 : ℚ) < den := by exact_mod_cast hd
  have hrem : 0 ≤ ((num % den : ℕ) : ℚ) / den := by positivity
  have hlt := mod_div_lt_one hd num
  have hbelow := div_lt_half_iff hd (num % den)
  have htie := div_eq_half_iff hd (num % den)
  rw [div_eq_div_add_mod_div num hd]
  unfold roundDiv
  simp only
  split
  · rename_i hround
    have hle : 1 / 2 ≤ ((num % den : ℕ) : ℚ) / den :=
      not_lt.1 fun hlt => by have := hbelow.1 hlt; omega
    have habs : |((num / den + 1 : ℕ) : ℚ) - ((num / den : ℕ) + (num % den : ℕ) / den)| =
        1 - (num % den : ℕ) / den := by
      rw [abs_of_nonneg] <;> push_cast <;> linarith
    refine ⟨by rw [habs]; linarith, fun h => ?_⟩
    rw [habs] at h
    have := htie.1 (by linarith)
    omega
  · rename_i hround
    have hle : ((num % den : ℕ) : ℚ) / den ≤ 1 / 2 := by
      rcases lt_trichotomy (2 * (num % den)) den with h | h | h
      · exact (hbelow.2 h).le
      · exact (htie.2 h).le
      · exact absurd (.inl h) hround
    have habs : |((num / den : ℕ) : ℚ) - ((num / den : ℕ) + (num % den : ℕ) / den)| =
        (num % den : ℕ) / den := by
      rw [sub_add_cancel_left, abs_neg, abs_of_nonneg hrem]
    refine ⟨by rw [habs]; exact hle, fun h => ?_⟩
    rw [habs] at h
    have := htie.1 h
    omega

theorem scaleTwo_div (m : Nat) (e : Int) :
    ((scaleTwo m e).1 / (scaleTwo m e).2 : ℚ) = m * 2 ^ e := by
  rw [zpow_eq_div, ← mul_div_assoc, ← Nat.cast_mul]
  rfl

namespace Binary64

/-! ## Absolute values -/

/-- The absolute value of a finite number. -/
def size (x : Binary64) : ℚ := x.decode.1 * 2 ^ x.decode.2

theorem neg_1074_le_decode (x : Binary64) : -1074 ≤ x.decode.2 := by
  unfold decode
  simp only
  split
  · exact le_rfl
  · rename_i he; simp only; omega

theorem isNegative_ofMagnitude {negative : Bool} {m : Nat} (h : m ≤ infinityMagnitude) :
    (ofMagnitude negative m).isNegative = negative := by
  have h63 : m < 0x8000000000000000 := h.trans_lt (by decide)
  unfold isNegative ofMagnitude
  cases negative
  · simp only [UInt64.toNat_ofNat', Bool.false_eq_true, if_false, decide_eq_false_iff_not]; omega
  · simp only [UInt64.toNat_ofNat', if_true, decide_eq_true_eq]; omega

theorem isNegative_ofRatio (negative : Bool) (num den : Nat) :
    (ofRatio negative num den).isNegative = negative := by
  unfold ofRatio
  split
  · exact isNegative_ofMagnitude (by decide)
  · exact isNegative_ofMagnitude (Nat.min_le_right _ _)

section Significand

variable {x : Binary64} {e : Int} {q : Nat} (he : -1074 ≤ e)
include he

/-- Only at the least exponent a significand may lack the leading bit. -/
theorem decode_of_magnitude (hx : x.magnitude = (e + 1074).toNat * 0x10000000000000 + q)
    (hq : q < 2 ^ 53) (hlead : -1074 < e → 2 ^ 52 ≤ q) : x.decode = (q, e) := by
  unfold decode
  rw [hx]
  by_cases hsub : q < 2 ^ 52
  · have hdiv : ((e + 1074).toNat * 0x10000000000000 + q) / 0x10000000000000 = 0 := by omega
    have hmod : ((e + 1074).toNat * 0x10000000000000 + q) % 0x10000000000000 = q := by omega
    simp only [hdiv, hmod, if_true, Prod.mk.injEq, true_and]
    omega
  · have hdiv : ((e + 1074).toNat * 0x10000000000000 + q) / 0x10000000000000 = (e + 1075).toNat := by
      omega
    have hmod : ((e + 1074).toNat * 0x10000000000000 + q) % 0x10000000000000 = q - 0x10000000000000 := by
      omega
    simp only [hdiv, hmod]
    rw [if_neg (by omega), Prod.mk.injEq]
    exact ⟨by omega, by omega⟩

/-- A significand of 2^53 is one of 2^52 at the next exponent. -/
theorem decode_of_magnitude_carry
    (hx : x.magnitude = (e + 1074).toNat * 0x10000000000000 + 2 ^ 53) :
    x.decode = (0x10000000000000, e + 1) := by
  refine decode_of_magnitude (by omega) ?_ (by decide) fun _ => by decide
  rw [hx]
  omega

theorem size_of_magnitude (hx : x.magnitude = (e + 1074).toNat * 0x10000000000000 + q)
    (hq : q ≤ 2 ^ 53) (hlead : -1074 < e → 2 ^ 52 ≤ q) : x.size = q * 2 ^ e := by
  unfold size
  rcases hq.lt_or_eq with hq | rfl
  · rw [decode_of_magnitude he hx hq hlead]
  · rw [decode_of_magnitude_carry he hx, zpow_add₀ two_ne_zero]
    norm_num
    ring

end Significand

/-! ## Rounding a quotient -/

section OfRatio

variable {negative : Bool} {num den : Nat}

/-- The significand of a rounded quotient is the whole number nearest to it at an exponent that is as
small as the format and the quotient allow. -/
theorem exists_size_ofRatio (hn : num ≠ 0) (hd : 0 < den)
    (h : (ofRatio negative num den).isFinite = true) : ∃ (e : Int) (q : Nat), -1074 ≤ e ∧
      (-1074 < e → (2 : ℚ) ^ (e + 52) ≤ num / den) ∧ IsNearest q (num / den / 2 ^ e) ∧
      (ofRatio negative num den).size = q * 2 ^ e := by
  obtain ⟨hlo, hhi⟩ := floorLog2_spec (Nat.pos_of_ne_zero hn) hd
  unfold ofRatio at h ⊢
  rw [if_neg hn] at h ⊢
  simp only at h ⊢
  generalize he : max (floorLog2 num den - 52) (-1074) = e at h ⊢
  have hbinade : -1074 < e → (2 : ℚ) ^ (e + 52) ≤ num / den := fun hlt => by
    rwa [show e + 52 = floorLog2 num den by omega]
  have hscaled : ((num * Nat.pow 2 (-e).toNat : ℕ) : ℚ) / (den * Nat.pow 2 e.toNat : ℕ) =
      num / den / 2 ^ e := by
    rw [zpow_eq_div, div_div_eq_mul_div, div_mul_eq_mul_div, div_div, Nat.cast_mul, Nat.cast_mul]
    rfl
  have hq : IsNearest (roundDiv (num * Nat.pow 2 (-e).toNat) (den * Nat.pow 2 e.toNat))
      (num / den / 2 ^ e) := by
    rw [← hscaled]
    exact isNearest_roundDiv (Nat.mul_pos hd (Nat.pow_pos (by decide)))
  have hle : roundDiv (num * Nat.pow 2 (-e).toNat) (den * Nat.pow 2 e.toNat) ≤ 2 ^ 53 := by
    refine roundDiv_scaled_le hd (hhi.le.trans ?_)
    calc (2 : ℚ) ^ (floorLog2 num den + 1) ≤ 2 ^ (53 + e) :=
          zpow_le_zpow_right₀ one_le_two (by omega)
      _ = ((2 ^ 53 : Nat) : ℚ) * 2 ^ e := by rw [zpow_add₀ two_ne_zero]; norm_num
  generalize roundDiv (num * Nat.pow 2 (-e).toNat) (den * Nat.pow 2 e.toNat) = q at h hq hle ⊢
  have hlead : -1074 < e → 2 ^ 52 ≤ q := fun hlt => by
    have hscale : ((2 ^ 52 : Nat) : ℚ) ≤ num / den / 2 ^ e := by
      rw [le_div_iff₀ (by positivity)]
      calc ((2 ^ 52 : Nat) : ℚ) * 2 ^ e = 2 ^ (e + 52) := by
            rw [zpow_add₀ two_ne_zero]; norm_num; ring
        _ ≤ num / den := hbinade hlt
    exact hq.le_of_le hscale
  have hmag : (e + 1074).toNat * 0x10000000000000 + q < infinityMagnitude := by
    by_contra hge
    rw [min_eq_right (not_lt.1 hge)] at h
    unfold isFinite at h
    rw [magnitude_ofMagnitude le_rfl, decide_eq_true_eq] at h
    exact lt_irrefl _ h
  rw [min_eq_left hmag.le]
  exact ⟨e, q, by omega, hbinade, hq,
    size_of_magnitude (by omega) (magnitude_ofMagnitude hmag.le) hle hlead⟩

/-- No finite number is closer to a quotient than the one that it is rounded to. -/
theorem size_ofRatio_le (hd : 0 < den) (h : (ofRatio negative num den).isFinite = true)
    {y : Binary64} (hy : y.isFinite = true) :
    |(ofRatio negative num den).size - num / den| ≤ |y.size - num / den| := by
  rcases eq_or_ne num 0 with rfl | hn
  · have hzero : (ofRatio negative 0 den).size = 0 := by
      rw [ofRatio, if_pos rfl]
      cases negative <;> simp [size, decode, ofMagnitude, magnitude]
    simp [hzero]
  · obtain ⟨e, q, he, hbinade, hq, hsize⟩ := exists_size_ofRatio hn hd h
    have hpos : (0 : ℚ) < 2 ^ e := by positivity
    -- at a scale where the exponent is zero, the rounded quotient is the nearest whole number
    have hscale : ∀ z : ℚ, |z * 2 ^ e - num / den| = |z - num / den / 2 ^ e| * 2 ^ e := fun z => by
      rw [← abs_of_pos hpos, ← abs_mul, abs_of_pos hpos, sub_mul, div_mul_cancel₀ _ hpos.ne']
    rw [hsize, hscale]
    rcases le_or_gt e y.decode.2 with hey | hey
    · -- a number of no smaller exponent is a whole number at that scale
      have hwhole : y.size = ((y.decode.1 * 2 ^ (y.decode.2 - e).toNat : ℕ) : Int) * 2 ^ e := by
        unfold size
        push_cast
        rw [mul_assoc, ← zpow_natCast, ← zpow_add₀ two_ne_zero, Int.toNat_of_nonneg (by omega),
          sub_add_cancel]
      rw [hwhole, hscale]
      exact mul_le_mul_of_nonneg_right (hq.le _) hpos.le
    · -- a number of smaller exponent is below the binade of the quotient
      have hlow := y.neg_1074_le_decode
      have hle : (2 : ℚ) ^ (e + 52) ≤ num / den := hbinade (by omega)
      have hbelow : y.size ≤ 2 ^ (e + 52) := by
        unfold size
        calc (y.decode.1 : ℚ) * 2 ^ y.decode.2 ≤ 2 ^ 53 * 2 ^ (e - 1) := by
              refine mul_le_mul ?_ (zpow_le_zpow_right₀ one_le_two (by omega)) (by positivity)
                (by positivity)
              have hm : y.decode.1 ≤ 2 ^ 53 := (decode_le hy).1.trans (Nat.sub_le _ _)
              exact_mod_cast hm
          _ = 2 ^ (e + 52) := by
            rw [← zpow_natCast, ← zpow_add₀ two_ne_zero]; congr 1; push_cast; ring
      have hwhole : (2 : ℚ) ^ (e + 52) = ((2 ^ 52 : Nat) : Int) * 2 ^ e := by
        rw [zpow_add₀ two_ne_zero, mul_comm]; norm_num
      calc |(q : ℚ) - num / den / 2 ^ e| * 2 ^ e
          ≤ |(((2 ^ 52 : Nat) : Int) : ℚ) - num / den / 2 ^ e| * 2 ^ e :=
            mul_le_mul_of_nonneg_right (hq.le _) hpos.le
        _ = |(2 : ℚ) ^ (e + 52) - num / den| := by rw [← hscale, hwhole]
        _ ≤ |y.size - num / den| := by
          rw [abs_sub_comm, abs_sub_comm y.size, abs_of_nonneg (by linarith),
            abs_of_nonneg (by linarith)]
          linarith

end OfRatio

/-! ## Printing and reading -/

/-- Whether a text is the nearest decimal to a number with a number of fractional digits: a minus sign
if the number has one, the whole part, a point, and the digits of the rest. -/
def IsFixed (places : Nat) (x : Binary64) (s : String) : Prop :=
  ∃ (n : Nat) (fraction : List Char), IsNearest n (x.size * 10 ^ places) ∧
    s.toList = (if x.isNegative then ['-'] else []) ++ (n / 10 ^ places).repr.toList ++ '.' :: fraction ∧
    fraction.length = places ∧ (∀ c ∈ fraction, c.isDigit = true) ∧
    Nat.ofDigitChars 10 fraction 0 = n % 10 ^ places

/-- Whether a finite number has the sign of another, and no finite number is closer to the decimal
that is nearest to the other. -/
def IsReread (places : Nat) (x y : Binary64) : Prop :=
  y.isFinite = true ∧ y.isNegative = x.isNegative ∧
    ∃ n : Nat, IsNearest n (x.size * 10 ^ places) ∧ ∀ z : Binary64, z.isFinite = true →
      |y.size - n / 10 ^ places| ≤ |z.size - n / 10 ^ places|

theorem ofDecimal_eq_ofRatio {negative : Bool} {places n : Nat} (hp : places ≤ 1200)
    (h : n ≤ maxFinite * 10 ^ places) :
    ofDecimal negative n (-places) = ofRatio negative n (10 ^ places) := by
  unfold ofDecimal
  simp only
  split
  · rename_i hn; rw [hn, ofRatio, if_pos rfl]
  · rename_i hn
    have hlog := (Nat.log2_lt hn).2 (h.trans_lt (mul_ten_pow_lt maxFinite_lt places))
    rw [if_neg (by omega), if_neg (by omega), Int.toNat_neg_natCast, Int.neg_neg, Int.toNat_natCast]
    congr 1
    exact Nat.mul_one n

section Printed

variable {x y : Binary64} (h : x.isFinite = true) {places : Nat}
include h

/-- A finite number is printed as the nearest decimal. -/
theorem isNearest_printed (places : Nat) : IsNearest (printed places x) (x.size * 10 ^ places) := by
  have hscaled : (((scaleTwo x.decode.1 x.decode.2).1 * 10 ^ places : ℕ) : ℚ) /
      (scaleTwo x.decode.1 x.decode.2).2 = x.size * 10 ^ places := by
    rw [size, ← scaleTwo_div, div_mul_eq_mul_div]
    push_cast
    rfl
  rw [← hscaled]
  exact isNearest_roundDiv (scaleTwo_le (decode_le h).1 (decode_le h).2).1

theorem isFixed_fixed (hp : 0 < places) : IsFixed places x (x.fixed places) := by
  refine ⟨printed places x, _, isNearest_printed h places, ?_,
    length_paddedDigits hp (Nat.mod_lt _ (Nat.pow_pos (by decide))),
    fun _ => isDigit_of_mem_paddedDigits, ofDigitChars_paddedDigits _ _⟩
  rw [fixed_eq h, String.toList_append, toList_fixedPoint, List.append_assoc]
  cases x.isNegative <;> rfl

/-- What was printed is read as a number that is closest to the decimal. -/
theorem isReread_of_read?_fixed (hp : 0 < places) (hle : places ≤ 1200)
    (hy : read? (x.fixed places).toList = some y) : IsReread places x y := by
  have hn := printed_le h places
  rw [fixed_eq h, read?_fixedPoint hp, ofDecimal_eq_ofRatio hle hn, Option.some.injEq] at hy
  have hten : 0 < 10 ^ places := Nat.pow_pos (by decide)
  have hfinite : (ofRatio x.isNegative (printed places x) (10 ^ places)).isFinite = true :=
    isFinite_ofRatio hten hn
  subst hy
  refine ⟨hfinite, isNegative_ofRatio _ _ _, _, isNearest_printed h places, fun z hz => ?_⟩
  have hclosest := size_ofRatio_le hten hfinite hz
  push_cast at hclosest
  exact hclosest

/-- What is closest to the decimal of a number is printed as the number is. -/
theorem IsReread.fixed_eq_fixed (hy : IsReread places x y) : y.fixed places = x.fixed places := by
  obtain ⟨hfinite, hsign, n, hn, hclosest⟩ := hy
  have hten : (0 : ℚ) < 10 ^ places := by positivity
  have hscale : ∀ z : ℚ, |(n : ℚ) - z * 10 ^ places| = |z - n / 10 ^ places| * 10 ^ places := fun z => by
    rw [abs_sub_comm, ← abs_of_pos hten, ← abs_mul, abs_of_pos hten, sub_mul,
      div_mul_cancel₀ _ hten.ne']
  -- the number itself is no closer to its decimal
  have hsame : IsNearest n (y.size * 10 ^ places) := by
    refine hn.of_le ?_
    rw [hscale, hscale]
    exact mul_le_mul_of_nonneg_right (hclosest x h) hten.le
  rw [fixed_eq h, fixed_eq hfinite, (isNearest_printed h places).eq hn,
    (isNearest_printed hfinite places).eq hsame, hsign]

end Printed

end Binary64

end DocSearch
