/-
Packing and unpacking. An unpacked number is packed to the pattern whose magnitude counts the
significands below its own, or to an infinity; and a pattern is unpacked to a number of its own
absolute value.
-/
import DocSearch.Proofs.Binary64.Rounding
import DocSearch.Proofs.Binary64.Sign

namespace DocSearch.Binary64

open Float.Model Float.Model.UnpackedFloat

variable {x : Binary64} {s : Sign} {e : Int} {q : Nat}

/-! ## Packing a result -/

/-- The pattern of an unpacked result. -/
def packed (u : UnpackedFloat) : Binary64 := ofResult (.ofModel (Float.Model.pack u))

theorem magnitude_of_packComponents {ex : BitVec 11} {mant : BitVec 52}
    (h : x.bits.toBitVec = packComponents Format.binary64 s ex mant) :
    x.magnitude = ex.toNat * 2 ^ 52 + mant.toNat := by
  have hexp := toNat_unpackExponent x
  have hmant := toNat_unpackMantissa x
  rw [h] at hexp hmant
  rw [unpackExponent_packComponents] at hexp
  rw [unpackMantissa_packComponents] at hmant
  omega

theorem magnitude_packed_of {u : UnpackedFloat} {ex : BitVec 11} {mant : BitVec 52}
    (h : UnpackedFloat.pack Format.binary64 u = packComponents Format.binary64 s ex mant)
    (hle : ex.toNat * 2 ^ 52 + mant.toNat ≤ infinityMagnitude) :
    (packed u).magnitude = ex.toNat * 2 ^ 52 + mant.toNat := by
  have hmag := magnitude_of_packComponents (x := ⟨(Float.ofModel (Float.Model.pack u)).toBits⟩) h
  have hnan : (Binary64.mk (Float.ofModel (Float.Model.pack u)).toBits).isNaN = false := by
    rw [isNaN, hmag]
    exact decide_eq_false (by omega)
  unfold packed ofResult
  simp only [hnan]
  exact hmag

theorem infinityMagnitude_eq : (-1#11 : BitVec 11).toNat * 2 ^ 52 + (0 : BitVec 52).toNat =
    infinityMagnitude := rfl

theorem magnitude_packed_infinity : (packed (.infinity s)).magnitude = infinityMagnitude :=
  magnitude_packed_of (show UnpackedFloat.pack Format.binary64 (.infinity s) =
    packComponents Format.binary64 s (-1#11) 0 from rfl) infinityMagnitude_eq.le

theorem magnitude_packed_zero : (packed (.zero s)).magnitude = 0 :=
  magnitude_packed_of (show UnpackedFloat.pack Format.binary64 (.zero s) =
    packComponents Format.binary64 s 0 0 from rfl) (Nat.zero_le _)

/-- A canonical number is packed to the place of its significand and exponent, or to an infinity. -/
theorem magnitude_packed_finite {m : Nat} (hm : 0 < m) (he : -1074 ≤ e) (hlt : m < 2 ^ 53)
    (hlead : -1074 < e → 2 ^ 52 ≤ m) : (packed (.finite s m e hm)).magnitude =
      min ((e + 1074).toNat * 0x10000000000000 + m) infinityMagnitude := by
  by_cases hinf : 2 ^ 11 ≤ (e + (1023 : Nat) + (52 : Nat)).toNat + 1
  · have hpack : UnpackedFloat.pack Format.binary64 (.finite s m e hm) =
        packComponents Format.binary64 s (-1#11) 0 := if_pos hinf
    rw [magnitude_packed_of hpack infinityMagnitude_eq.le, infinityMagnitude_eq, min_eq_right]
    unfold infinityMagnitude
    omega
  · by_cases hnormal : m.log2 + 1 = 53
    · have hpack : UnpackedFloat.pack Format.binary64 (.finite s m e hm) =
          packComponents Format.binary64 s (BitVec.ofNat 11 (e + (1023 : Nat) + (52 : Nat)).toNat)
            (BitVec.ofNat 52 m) := (if_neg hinf).trans (if_pos hnormal)
      have hlead : 2 ^ 52 ≤ m := (Nat.le_log2 hm.ne').1 (by omega)
      have hexp : (BitVec.ofNat 11 (e + (1023 : Nat) + (52 : Nat)).toNat).toNat = (e + 1075).toNat := by
        rw [BitVec.toNat_ofNat]; omega
      have hmant : (BitVec.ofNat 52 m).toNat = m - 2 ^ 52 := by rw [BitVec.toNat_ofNat]; omega
      have hle : (e + 1075).toNat * 2 ^ 52 + (m - 2 ^ 52) ≤ infinityMagnitude := by
        unfold infinityMagnitude; omega
      rw [magnitude_packed_of hpack (by rw [hexp, hmant]; exact hle), hexp, hmant]
      omega
    · have hpack : UnpackedFloat.pack Format.binary64 (.finite s m e hm) =
          packComponents Format.binary64 s 0#11 (BitVec.ofNat 52 m) :=
        (if_neg hinf).trans (if_neg hnormal)
      have hsub : m < 2 ^ 52 := by
        by_contra hge
        have h52 := (Nat.le_log2 hm.ne').2 (not_lt.1 hge)
        have h53 := (Nat.log2_lt hm.ne').2 hlt
        omega
      have hexp : (0#11).toNat = 0 := rfl
      have hmant : (BitVec.ofNat 52 m).toNat = m := by rw [BitVec.toNat_ofNat]; omega
      have hle : 0 * 2 ^ 52 + m ≤ infinityMagnitude := by unfold infinityMagnitude; omega
      rw [magnitude_packed_of hpack (by rw [hexp, hmant]; exact hle), hexp, hmant]
      unfold infinityMagnitude
      omega

theorem magnitude_packed_ofSignificand (he : -1074 ≤ e) (hq : q ≤ 2 ^ 53)
    (hlead : -1074 < e → 2 ^ 52 ≤ q) : (packed (ofSignificand s q e)).magnitude =
      min ((e + 1074).toNat * 0x10000000000000 + q) infinityMagnitude := by
  unfold ofSignificand
  split
  · rename_i hzero
    have hleast : (e + 1074).toNat = 0 := by omega
    rw [magnitude_packed_zero, hzero, hleast, Nat.zero_mul, Nat.add_zero, Nat.zero_min]
  · split
    · rename_i hne hlt
      exact magnitude_packed_finite _ he hlt hlead
    · rename_i hne hge
      have hcarry : (e + 1 + 1074).toNat * 0x10000000000000 + 2 ^ 52 =
          (e + 1074).toNat * 0x10000000000000 + q := by omega
      rw [← hcarry]
      exact magnitude_packed_finite _ (by omega) (by norm_num) fun _ => le_rfl

/-! ## Unpacking an operand -/

/-- What a pattern is unpacked to, with its absolute value. -/
inductive UnpacksTo (x : Binary64) : UnpackedFloat → Prop
  | infinity (s : Sign) (h : x.isFinite = false) : UnpacksTo x (.infinity s)
  | zero (s : Sign) (h : x.isFinite = true) (hsize : x.size = 0) : UnpacksTo x (.zero s)
  | finite (s : Sign) (m : Nat) (e : Int) (hm : 0 < m) (h : x.isFinite = true)
      (hsize : x.size = m * 2 ^ e) (he : -1074 ≤ e) (hlead : m < 2 ^ 52 → e = -1074) :
      UnpacksTo x (.finite s m e hm)

theorem natAbs_apply (s : Sign) (n : Int) : (s.apply n).natAbs = n.natAbs := by
  cases s with
  | negative => exact Int.natAbs_neg n
  | positive => rfl

theorem unpacksTo (hx : x.isNaN = false) : UnpacksTo x x.unpacked := by
  obtain ⟨hcanonical, hplace⟩ := canonical_unpacked hx
  have habs : (placeOf x.unpacked).natAbs = x.magnitude := by
    rw [hplace, place, natAbs_apply, Int.natAbs_natCast]
  generalize x.unpacked = u at hcanonical habs ⊢
  cases u with
  | notANumber => exact hcanonical.elim
  | infinity s =>
    rw [placeOf, natAbs_apply, Int.natAbs_natCast] at habs
    exact .infinity s (decide_eq_false (by omega))
  | zero s =>
    have hmag : x.magnitude = 0 := habs.symm
    refine .zero s (decide_eq_true (by rw [hmag]; decide)) ?_
    rw [size_of_magnitude (e := -1074) (q := 0) le_rfl hmag (by decide) (by omega)]
    norm_num
  | finite s m e hm =>
    obtain ⟨hlt, he, hm53, hlead⟩ := hcanonical
    rw [placeOf, natAbs_apply] at habs
    have hmag : x.magnitude = (e + 1074).toNat * 0x10000000000000 + m := by omega
    refine .finite s m e hm (decide_eq_true (by omega)) ?_ he hlead
    exact size_of_magnitude he hmag hm53.le (by omega)

end DocSearch.Binary64
