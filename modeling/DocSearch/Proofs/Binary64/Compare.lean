/-
Comparing numbers. The total order of the patterns is the order of the numbers, except that the two
zeros are different places of it and equal numbers. The magnitude of a finite pattern counts the
significands of all smaller exponents, so magnitudes compare as exponents and, where these are the
same, as significands.
-/
import Mathlib
import DocSearch.Binary64.Round

namespace DocSearch.Binary64

open Float.Model Float.Model.UnpackedFloat

variable {x y : Binary64}

/-! ## Patterns as numbers -/

/-- The sign of a pattern. -/
def sign (x : Binary64) : Sign := if x.isNegative then .negative else .positive

/-- What a pattern is unpacked to. -/
def unpacked (x : Binary64) : UnpackedFloat := UnpackedFloat.unpack Format.binary64 x.bits.toBitVec

theorem toNat_unpackMantissa (x : Binary64) :
    (@unpackMantissa Format.binary64 x.bits.toBitVec).toNat = x.magnitude % 2 ^ 52 := by
  rw [unpackMantissa_def, BitVec.extractLsb'_toNat, UInt64.toNat_toBitVec]
  unfold magnitude
  simp only [Nat.shiftRight_zero]
  omega

theorem toNat_unpackExponent (x : Binary64) :
    (@unpackExponent Format.binary64 x.bits.toBitVec).toNat = x.magnitude / 2 ^ 52 := by
  have hx := x.bits.toNat_lt
  rw [unpackExponent_def, BitVec.extractLsb'_toNat, UInt64.toNat_toBitVec]
  unfold magnitude
  simp only [Nat.shiftRight_eq_div_pow]
  omega

theorem ofBitVec_unpackSign (x : Binary64) :
    Sign.ofBitVec (@unpackSign Format.binary64 x.bits.toBitVec) = x.sign := by
  have hx := x.bits.toNat_lt
  have hsign : (@unpackSign Format.binary64 x.bits.toBitVec).toNat = x.bits.toNat / 2 ^ 63 := by
    rw [unpackSign_def, BitVec.extractLsb'_toNat, UInt64.toNat_toBitVec]
    simp only [Nat.shiftRight_eq_div_pow]
    omega
  have hzero : @unpackSign Format.binary64 x.bits.toBitVec = 0#1 ↔ x.isNegative = false := by
    rw [← BitVec.toNat_inj, hsign, BitVec.toNat_ofNat, isNegative, decide_eq_false_iff_not]
    omega
  unfold Sign.ofBitVec sign
  cases hneg : x.isNegative with
  | false => rw [if_pos (hzero.2 hneg)]; rfl
  | true => rw [if_neg fun h => by rw [hzero.1 h] at hneg; cases hneg]; rfl

theorem unpackExponent_eq_iff {n : Nat} (hn : n < 2 ^ 11) :
    @unpackExponent Format.binary64 x.bits.toBitVec = BitVec.ofNat 11 n ↔ x.magnitude / 2 ^ 52 = n := by
  rw [← BitVec.toNat_inj, toNat_unpackExponent, BitVec.toNat_ofNat, Nat.mod_eq_of_lt hn]

theorem unpackMantissa_eq_zero_iff :
    @unpackMantissa Format.binary64 x.bits.toBitVec = 0#52 ↔ x.magnitude % 2 ^ 52 = 0 := by
  rw [← BitVec.toNat_inj, toNat_unpackMantissa, BitVec.toNat_ofNat, Nat.zero_mod]

/-- The leading bit that patterns of normal numbers leave out. -/
theorem toNat_implicit (m : BitVec 52) : (1#1 ++ m).toNat = 2 ^ 52 + m.toNat := by
  rw [BitVec.toNat_append, BitVec.toNat_ofNat, ← Nat.shiftLeft_add_eq_or_of_lt m.isLt]
  rfl

/-- The place of a number among all numbers: its magnitude with its sign. -/
def place (x : Binary64) : Int := x.sign.apply x.magnitude

/-- The place of an unpacked number. The magnitude of a finite pattern counts all significands
below its own. -/
def placeOf : UnpackedFloat → Int
  | .notANumber => 0
  | .infinity s => s.apply infinityMagnitude
  | .zero _ => 0
  | .finite s m e _ => s.apply ((e + 1074) * 2 ^ 52 + m)

/-- The unpacked numbers of finite patterns: only those of the least exponent have no leading bit. -/
def Canonical : UnpackedFloat → Prop
  | .notANumber => False
  | .infinity _ => True
  | .zero _ => True
  | .finite _ m e _ => (e + 1074) * 2 ^ 52 + m < infinityMagnitude ∧ -1074 ≤ e ∧ m < 2 ^ 53 ∧
      (m < 2 ^ 52 → e = -1074)

theorem apply_zero (s : Sign) : s.apply 0 = 0 := by cases s <;> rfl

/-- Unpacking keeps the place of a number. -/
theorem canonical_unpacked (h : x.isNaN = false) :
    Canonical x.unpacked ∧ placeOf x.unpacked = x.place := by
  rw [isNaN, decide_eq_false_iff_not, Nat.not_lt] at h
  unfold infinityMagnitude at h
  have hexp : ∀ n, n < 2 ^ 11 → (@unpackExponent Format.binary64 x.bits.toBitVec = BitVec.ofNat 11 n ↔
    x.magnitude / 2 ^ 52 = n) := fun n hn => unpackExponent_eq_iff hn
  have hbias : (Format.binary64.exponentBias : Int) + Format.binary64.mantissaBitsWithoutImplicit =
    1075 := rfl
  unfold unpacked UnpackedFloat.unpack
  simp only [ofBitVec_unpackSign]
  split
  · rename_i hinf
    have hinf := (hexp 2047 (by decide)).1 hinf
    rw [if_pos (unpackMantissa_eq_zero_iff.2 (by omega))]
    have hmag : x.magnitude = infinityMagnitude := by unfold infinityMagnitude; omega
    exact ⟨trivial, by rw [placeOf, place, hmag]⟩
  · rename_i hinf
    have hinf : ¬ x.magnitude / 2 ^ 52 = 2047 := fun h => hinf ((hexp 2047 (by decide)).2 h)
    split
    · rename_i hsub
      have hsub := (hexp 0 (by decide)).1 hsub
      split
      · rename_i hzero
        have hzero := unpackMantissa_eq_zero_iff.1 hzero
        have hmag : x.magnitude = 0 := by omega
        exact ⟨trivial, by rw [placeOf, place, hmag]; exact (apply_zero _).symm⟩
      · simp only [Canonical, placeOf, place, toNat_unpackMantissa, toNat_unpackExponent, hbias,
          infinityMagnitude]
        refine ⟨by omega, congrArg _ (by omega)⟩
    · rename_i hsub
      have hsub : ¬ x.magnitude / 2 ^ 52 = 0 := fun h => hsub ((hexp 0 (by decide)).2 h)
      simp only [Canonical, placeOf, place, toNat_implicit, toNat_unpackMantissa,
        toNat_unpackExponent, hbias, infinityMagnitude]
      refine ⟨by omega, congrArg _ (by omega)⟩

/-! ## Comparing -/

/-- Exponents first and significands second is the order of the magnitudes. -/
theorem compare_magnitude {e₁ e₂ : Int} {m₁ m₂ : Nat} (he₁ : -1074 ≤ e₁) (he₂ : -1074 ≤ e₂)
    (hm₁ : m₁ < 2 ^ 53) (hm₂ : m₂ < 2 ^ 53) (hsub₁ : m₁ < 2 ^ 52 → e₁ = -1074)
    (hsub₂ : m₂ < 2 ^ 52 → e₂ = -1074) : (compare e₁ e₂).then (compare m₁ m₂) =
      compare ((e₁ + 1074) * 2 ^ 52 + m₁) ((e₂ + 1074) * 2 ^ 52 + m₂) := by
  rcases Int.lt_trichotomy e₁ e₂ with h | rfl | h
  · have hlt : (e₁ + 1074) * 2 ^ 52 + m₁ < (e₂ + 1074) * 2 ^ 52 + m₂ := by omega
    rw [compare_lt_iff_lt.2 h, compare_lt_iff_lt.2 hlt]
    rfl
  · rw [compare_eq_iff_eq.2 rfl, Ordering.eq_then]
    rcases Nat.lt_trichotomy m₁ m₂ with h | rfl | h
    · rw [compare_lt_iff_lt.2 h, compare_lt_iff_lt.2 (by omega)]
    · rw [compare_eq_iff_eq.2 rfl, compare_eq_iff_eq.2 rfl]
    · rw [compare_gt_iff_gt.2 h, compare_gt_iff_gt.2 (by omega)]
  · have hgt : (e₂ + 1074) * 2 ^ 52 + m₂ < (e₁ + 1074) * 2 ^ 52 + m₁ := by omega
    rw [compare_gt_iff_gt.2 h, compare_gt_iff_gt.2 hgt]
    rfl

theorem compare_neg (i j : Int) : compare (-i) (-j) = (compare i j).swap := by
  rcases Int.lt_trichotomy i j with h | rfl | h
  · rw [compare_lt_iff_lt.2 h, compare_gt_iff_gt.2 (Int.neg_lt_neg h)]; rfl
  · rw [compare_eq_iff_eq.2 rfl, compare_eq_iff_eq.2 rfl]; rfl
  · rw [compare_gt_iff_gt.2 h, compare_lt_iff_lt.2 (Int.neg_lt_neg h)]; rfl

section Places

variable {u v : UnpackedFloat} {m : Nat} {e : Int} {hm : 0 < m}

theorem placeOf_pos (h : Canonical (.finite .positive m e hm)) :
    0 < placeOf (.finite .positive m e hm) := by
  obtain ⟨-, he, -, -⟩ := h
  simp only [placeOf, Sign.apply]
  omega

theorem placeOf_neg (h : Canonical (.finite .negative m e hm)) :
    placeOf (.finite .negative m e hm) < 0 := by
  obtain ⟨-, he, -, -⟩ := h
  simp only [placeOf, Sign.apply]
  omega

/-- All numbers but the infinities are between them. -/
theorem placeOf_bounds (hu : Canonical u) (hinf : ∀ s, u ≠ .infinity s) :
    -(infinityMagnitude : Int) < placeOf u ∧ placeOf u < infinityMagnitude := by
  cases u with
  | notANumber => exact hu.elim
  | infinity s => exact absurd rfl (hinf s)
  | zero s => rw [placeOf, infinityMagnitude]; decide
  | finite s m e hm =>
    obtain ⟨hlt, he, -, -⟩ := hu
    cases s <;> simp only [placeOf, Sign.apply] <;> omega

/-- Numbers compare as their places. -/
theorem compare_eq_compare_placeOf (hu : Canonical u) (hv : Canonical v) :
    u.compare v = some (compare (placeOf u) (placeOf v)) := by
  have hlt : ∀ {i j : Int}, i < j → some Ordering.lt = some (compare i j) := fun h =>
    congrArg some (compare_lt_iff_lt.2 h).symm
  have hgt : ∀ {i j : Int}, j < i → some Ordering.gt = some (compare i j) := fun h =>
    congrArg some (compare_gt_iff_gt.2 h).symm
  fun_cases UnpackedFloat.compare u v with
  | case1 => exact hu.elim
  | case2 => exact hv.elim
  | case3 s t => cases s <;> cases t <;> rfl
  | case4 v _ hinf => exact hgt (placeOf_bounds hv hinf).2
  | case5 v _ hinf => exact hlt (placeOf_bounds hv hinf).1
  | case6 u _ hinf => exact hlt (placeOf_bounds hu hinf).2
  | case7 u _ hinf => exact hgt (placeOf_bounds hu hinf).1
  | case8 => exact hgt (placeOf_pos hu)
  | case9 => exact hlt (placeOf_neg hu)
  | case10 => exact hlt (placeOf_pos hv)
  | case11 => exact hgt (placeOf_neg hv)
  | case12 => rfl
  | case13 m₁ e₁ _ m₂ e₂ _ =>
    obtain ⟨-, he₁, hm₁, hsub₁⟩ := hu
    obtain ⟨-, he₂, hm₂, hsub₂⟩ := hv
    rw [compare_magnitude he₁ he₂ hm₁ hm₂ hsub₁ hsub₂, ← compare_neg]
    rfl
  | case14 => exact hlt ((placeOf_neg hu).trans (placeOf_pos hv))
  | case15 => exact hgt ((placeOf_neg hv).trans (placeOf_pos hu))
  | case16 m₁ e₁ _ m₂ e₂ _ =>
    obtain ⟨-, he₁, hm₁, hsub₁⟩ := hu
    obtain ⟨-, he₂, hm₂, hsub₂⟩ := hv
    rw [compare_magnitude he₁ he₂ hm₁ hm₂ hsub₁ hsub₂]
    rfl

end Places

/-! ## Numbers in the total order -/

theorem isNaNBits_eq (x : Binary64) : @isNaNBits Format.binary64 x.bits.toBitVec = x.isNaN := by
  have hx := x.bits.toNat_lt
  have hmag : x.magnitude < 2 ^ 63 := Nat.mod_lt _ (by decide)
  have hexp : @unpackExponent Format.binary64 x.bits.toBitVec = -1#11 ↔ x.magnitude / 2 ^ 52 = 2047 :=
    unpackExponent_eq_iff (by decide)
  rw [isNaNBits, isNaN, decide_eq_decide, hexp, ne_eq, unpackMantissa_eq_zero_iff]
  unfold infinityMagnitude
  omega

theorem unpack_toFloat (h : x.isNaN = false) : x.toFloat.toModel.unpack = x.unpacked := by
  have hpack := @pack_unpack Format.binary64 x.bits.toBitVec (by decide)
  rw [isNaNBits_eq, h, if_neg Bool.false_ne_true] at hpack
  exact congrArg (UnpackedFloat.unpack Format.binary64) hpack

theorem compare_toFloat (hx : x.isNaN = false) (hy : y.isNaN = false) :
    x.toFloat.toModel.compare y.toFloat.toModel = some (compare x.place y.place) := by
  obtain ⟨hcx, hpx⟩ := canonical_unpacked hx
  obtain ⟨hcy, hpy⟩ := canonical_unpacked hy
  rw [Float.Model.compare, unpack_toFloat hx, unpack_toFloat hy, compare_eq_compare_placeOf hcx hcy,
    hpx, hpy]

theorem beq_iff (hx : x.isNaN = false) (hy : y.isNaN = false) :
    (x == y) = true ↔ x.place = y.place := by
  have hbeq : (x == y) = (x.toFloat.toModel.compare y.toFloat.toModel == some .eq) := rfl
  rw [hbeq, compare_toFloat hx hy, beq_iff_eq, Option.some.injEq, compare_eq_iff_eq]

theorem toFloat_le_iff (hx : x.isNaN = false) (hy : y.isNaN = false) :
    x.toFloat ≤ y.toFloat ↔ x.place ≤ y.place := by
  have hle : x.toFloat ≤ y.toFloat ↔ decide (x.toFloat.toModel ≤ y.toFloat.toModel) = true := Iff.rfl
  have hany : x.toFloat.toModel ≤ y.toFloat.toModel ↔
    (x.toFloat.toModel.compare y.toFloat.toModel).any (·.isLE) = true := Iff.rfl
  rw [hle, decide_eq_true_iff, hany, compare_toFloat hx hy, Option.any_some, Std.isLE_compare]

theorem eq_of_magnitude_eq (hs : x.isNegative = y.isNegative) (hm : x.magnitude = y.magnitude) :
    x = y := by
  obtain ⟨bx⟩ := x
  obtain ⟨b⟩ := y
  have hx := bx.toNat_lt
  have hy := b.toNat_lt
  simp only [isNegative, magnitude, decide_eq_decide] at hs hm
  exact congrArg Binary64.mk (UInt64.toNat_inj.1 (by omega))

theorem eq_of_orderKey_eq (h : x.orderKey = y.orderKey) : x = y := by
  unfold orderKey at h
  cases hx : x.isNegative <;> cases hy : y.isNegative <;>
    simp only [hx, hy, if_true, Bool.false_eq_true, if_false] at h
  · exact eq_of_magnitude_eq (hx.trans hy.symm) (by omega)
  · omega
  · omega
  · exact eq_of_magnitude_eq (hx.trans hy.symm) (by omega)

theorem eq_zero_of_magnitude (hs : x.isNegative = false) (hm : x.magnitude = 0) : x = zero :=
  eq_of_magnitude_eq hs hm

theorem eq_negZero_of_magnitude (hs : x.isNegative = true) (hm : x.magnitude = 0) : x = negZero :=
  eq_of_magnitude_eq hs hm

/-- The total order is finer than that of the numbers, by the two zeros only. -/
theorem place_lt_or_zeros (h : x.orderKey < y.orderKey) :
    x.place < y.place ∨ (x = negZero ∧ y = zero) := by
  unfold orderKey at h
  unfold place sign
  cases hx : x.isNegative <;> cases hy : y.isNegative <;>
    simp only [hx, hy, if_true, Bool.false_eq_true, if_false, Sign.apply] at h ⊢
  · exact .inl (by omega)
  · omega
  · by_cases hzero : x.magnitude = 0 ∧ y.magnitude = 0
    · exact .inr ⟨eq_negZero_of_magnitude hx hzero.1, eq_zero_of_magnitude hy hzero.2⟩
    · exact .inl (by omega)
  · exact .inl (by omega)

end DocSearch.Binary64
