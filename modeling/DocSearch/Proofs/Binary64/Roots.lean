/-
Bounds for quotients and square roots by powers of two. Both are computed as whole numbers with enough
bits, and what is left of the division, or of the number after the square of its root, says on which
side of a half the exact value lies.
-/
import DocSearch.Proofs.Binary64.Sums

namespace DocSearch.Binary64

open Float.Model Float.Model.UnpackedFloat

variable {x y : Binary64} {s : Sign} {a b e k : Int}

/-! ## Quotients -/

/-- What is left of a division says how the quotient compares with its whole part. -/
theorem approximates_div (m : Nat) {n : Nat} (hn : 0 < n) :
    Approximates (.ofMantissaAndAccuracy (m / n) (accuracyOfFraction (m % n) n)) ((m : ℚ) / n) := by
  have hhalf := div_lt_half_iff hn (m % n)
  have htie := div_eq_half_iff hn (m % n)
  have hlt := mod_div_lt_one hn m
  rw [div_eq_div_add_mod_div m hn]
  unfold accuracyOfFraction
  split
  · rename_i hzero
    rw [hzero, Nat.cast_zero, zero_div, add_zero]
    exact approximates_exact _
  · rename_i hne
    have hpos : (0 : ℚ) < (m % n : ℕ) / n := by
      have hrem : (0 : ℚ) < (m % n : ℕ) := by exact_mod_cast Nat.pos_of_ne_zero hne
      positivity
    rcases lt_trichotomy (2 * (m % n)) n with h | h | h
    · rw [compare_lt_iff_lt.2 h]
      exact approximates_lt_iff.2 ⟨lt_add_of_pos_right _ hpos, add_lt_add_right (hhalf.2 h) _⟩
    · rw [compare_eq_iff_eq.2 h, htie.2 h]
      rfl
    · rw [compare_gt_iff_gt.2 h]
      have hge : 1 / 2 < ((m % n : ℕ) / n : ℚ) :=
        lt_of_le_of_ne (not_lt.1 fun hl => by have := hhalf.1 hl; omega)
          fun he => by have := htie.1 he.symm; omega
      exact approximates_gt_iff.2 ⟨add_lt_add_right hge _, add_lt_add_right hlt _⟩

theorem exists_div_finite {m n : Nat} (e f : Int) (s t : Sign) (hm : 0 < m) (hn : 0 < n) :
    ∃ q e', RoundsAt (m * 2 ^ e / (n * 2 ^ f)) e' q ∧
      UnpackedFloat.div Format.binary64 (.finite s m e hm) (.finite t n f hn) =
        ofSignificand (s / t) q e' := by
  have hn' : (0 : ℚ) < n := by exact_mod_cast hn
  have hdiv : UnpackedFloat.div Format.binary64 (.finite s m e hm) (.finite t n f hn) =
      roundWithAccuracy Format.binary64 (s / t) (divCore Format.binary64 m e n f).1
        (divCore Format.binary64 m e n f).2.1 (divCore Format.binary64 m e n f).2.2 := rfl
  rw [hdiv]
  unfold divCore
  simp only [Nat.shiftLeft_eq]
  rw [targetExponent_eq, totalExponent, totalExponent]
  generalize hT : min (e - f) (max ((m.log2 : Int) + 1 + e - (n.log2 + 1 + f) - 53) (-1074)) = T
  have hscaled : ((m * 2 ^ (e - f - T).toNat : ℕ) : ℚ) / n * 2 ^ T = m * 2 ^ e / (n * 2 ^ f) := by
    have hmin := decreased_mul_zpow m (e - f) T
    rw [show min (e - f) T = T by omega] at hmin
    rw [div_mul_eq_mul_div, hmin, zpow_sub₀ two_ne_zero]
    field_simp
  have hbits : ¬T ≤ -1074 → 2 ^ 52 ≤ m * 2 ^ (e - f - T).toNat / n := by
    intro hgt
    have hpos : 0 < m * 2 ^ (e - f - T).toNat := by positivity
    have hlog : n.log2 + 53 ≤ (m * 2 ^ (e - f - T).toNat).log2 := by
      rw [log2_mul_two_pow hm]; omega
    rw [Nat.le_div_iff_mul_le hn]
    calc 2 ^ 52 * n ≤ 2 ^ 52 * 2 ^ (n.log2 + 1) := Nat.mul_le_mul_left _ Nat.lt_log2_self.le
      _ = 2 ^ (n.log2 + 53) := by rw [← pow_add]; congr 1; omega
      _ ≤ m * 2 ^ (e - f - T).toNat := (Nat.le_log2 hpos.ne').1 hlog
  have hpos : 0 < m * 2 ^ (e - f - T).toNat / n ∨ T ≤ -1074 := by
    by_cases hle : T ≤ -1074
    · exact .inr hle
    · exact .inl (lt_of_lt_of_le (by decide) (hbits hle))
  have htarget : T ≤ Format.binary64.targetExponent
      (totalExponent (m * 2 ^ (e - f - T).toNat / n) T) := by
    rw [targetExponent_eq, totalExponent]
    by_cases hle : T ≤ -1074
    · omega
    · have hlog := (Nat.le_log2 (by have := hbits hle; omega)).2 (hbits hle)
      omega
  obtain ⟨q, e', hround, heq⟩ := exists_roundWithAccuracy (s := s / t) hpos htarget
    (approximates_div (m * 2 ^ (e - f - T).toNat) hn)
  rw [hscaled] at hround
  exact ⟨q, e', hround, heq⟩

theorem AtMost.div (hx : AtMost a x) (hy : AtLeast b y) (h : -1074 ≤ a - b) (h' : a - b ≤ 1023) :
    AtMost (a - b) (x / y) := by
  rw [div_eq_packed hx.number hy.number]
  have hux := unpacksTo hx.number
  have huy := unpacksTo hy.number
  generalize x.unpacked = u at hux
  generalize y.unpacked = v at huy
  cases huy with
  | zero t hfin hsize => exact absurd hsize (hy.size_pos hfin).ne'
  | infinity t ht =>
    cases hux with
    | infinity s hs => rw [hx.finite] at hs; cases hs
    | zero s => exact atMost_packed_zero _
    | finite s m e hm => exact atMost_packed_zero _
  | finite t n f hn hfin hsize =>
    cases hux with
    | infinity s hs => rw [hx.finite] at hs; cases hs
    | zero s => exact atMost_packed_zero _
    | finite s m e hm hfin' hsize' =>
      obtain ⟨q, e', hround, heq⟩ := exists_div_finite e f s t hm hn
      rw [heq]
      refine atMost_packed hround h h' ?_
      rw [← hsize, ← hsize', zpow_sub₀ two_ne_zero]
      refine le_trans ?_ (le_add_of_nonneg_right (by positivity))
      exact div_le_div₀ (by positivity) hx.size_le (by positivity) (hy.le_size hfin)

/-- A number over one that is no greater is at least one. -/
theorem atLeast_div_of_size_le (hx : x.isFinite = true) (hy : y.isFinite = true) (hpos : 0 < y.size)
    (hle : y.size ≤ x.size) : AtLeast 0 (x / y) := by
  have hnx := isNaN_of_isFinite hx
  have hny := isNaN_of_isFinite hy
  have hone : (2 : ℚ) ^ (0 : Int) ≤ x.size / y.size := by
    rw [zpow_zero, le_div_iff₀ hpos, one_mul]
    exact hle
  rw [div_eq_packed hnx hny]
  have hux := unpacksTo hnx
  have huy := unpacksTo hny
  generalize x.unpacked = u at hux
  generalize y.unpacked = v at huy
  cases hux with
  | infinity s hs => rw [hx] at hs; cases hs
  | zero s hfin hsize => exact absurd hsize (hpos.trans_le hle).ne'
  | finite s m e hm hfin hsize =>
    cases huy with
    | infinity t ht => rw [hy] at ht; cases ht
    | zero t hfin' hsize' => exact absurd hsize' hpos.ne'
    | finite t n f hn hfin' hsize' =>
      obtain ⟨q, e', hround, heq⟩ := exists_div_finite e f s t hm hn
      rw [heq]
      rw [hsize, hsize'] at hone
      exact atLeast_packed hround (by decide) hone

/-! ## Counts -/

theorem isFinite_ofNat {n : Nat} (h : n < 0x20000000000000) : (ofNat n).isFinite = true := by
  have hle : n ≤ maxFinite := by
    have hpos : 0 < 2 ^ 971 := by positivity
    unfold maxFinite
    generalize 2 ^ 971 = k at hpos ⊢
    exact (Nat.le_sub_one_of_lt h).trans (Nat.le_mul_of_pos_right _ hpos)
  exact isFinite_ofRatio Nat.one_pos (hle.trans_eq (Nat.mul_one _).symm)

theorem isNegative_ofNat (n : Nat) : (ofNat n).isNegative = false := isNegative_ofRatio false n 1

/-- Counts of at most 53 bits are not rounded. -/
theorem size_ofNat {n : Nat} (h : n < 0x20000000000000) : (ofNat n).size = n := by
  rcases eq_or_ne n 0 with rfl | hne
  · rw [Nat.cast_zero]; exact size_of_magnitude_zero (by decide)
  · obtain ⟨e, q, -, hbinade, hq, hsize⟩ := exists_size_ofRatio hne Nat.one_pos (isFinite_ofNat h)
    have hexp : e ≤ 0 := by
      by_contra hgt
      have hlt : (n : ℚ) < 2 ^ (53 : Int) := by exact_mod_cast h
      have hle := hbinade (by omega)
      rw [Nat.cast_one, div_one] at hle
      have := (zpow_lt_zpow_iff_right₀ (one_lt_two (α := ℚ))).1 (hle.trans_lt hlt)
      omega
    -- at this scale the count is a whole number
    have hwhole : (n : ℚ) / (1 : ℕ) / 2 ^ e = (n * 2 ^ (0 - e).toNat : ℕ) := by
      rw [Nat.cast_one, div_one, div_eq_iff (by positivity), Nat.cast_mul, mul_assoc,
        ← zpow_eq_mul_zpow hexp, zpow_zero, mul_one]
    rw [hwhole] at hq
    have hexact : q = n * 2 ^ (0 - e).toNat := hq.eq ⟨by norm_num, by norm_num⟩
    rw [ofNat, hsize, hexact, Nat.cast_mul, mul_assoc, ← zpow_eq_mul_zpow hexp, zpow_zero, mul_one]

/-- A count over one that is no greater is a finite number of at least one. -/
theorem atLeast_ofNat_div {n k : Nat} (hk : 0 < k) (hkn : k ≤ n) (hn : n ≤ 0x100000000) :
    (ofNat n / ofNat k).isFinite = true ∧ (ofNat n / ofNat k).isNegative = false ∧
      1 ≤ (ofNat n / ofNat k).size := by
  have hsize : (ofNat n).size = n := size_ofNat (by omega)
  have hsize' : (ofNat k).size = k := size_ofNat (by omega)
  have hfin : ∀ {m : Nat}, m ≤ n → (ofNat m).isFinite = true := fun hm => isFinite_ofNat (by omega)
  have hone : (1 : ℚ) ≤ k := by exact_mod_cast hk
  have hatMost : AtMost 32 (ofNat n) := ⟨hfin le_rfl, by rw [hsize]; exact_mod_cast hn⟩
  have hatLeast : AtLeast 0 (ofNat k) :=
    ⟨isNaN_of_isFinite (hfin hkn), fun _ => by rw [hsize', zpow_zero]; exact hone⟩
  have hquotient := (hatMost.div hatLeast (by decide) (by decide)).finite
  have hclear : ∀ m, (ofNat m).NonNegative := fun m _ => isNegative_ofNat m
  refine ⟨hquotient, NonNegative.div (hclear n) (hclear k) (isNaN_of_isFinite hquotient), ?_⟩
  have hdiv := atLeast_div_of_size_le (hfin le_rfl) (hfin hkn) (by rw [hsize']; linarith)
    (by rw [hsize, hsize']; exact_mod_cast hkn)
  exact hdiv.le_size hquotient

/-! ## Square roots -/

/-- The whole part of a root and whether its square is reached say where the root lies; the exact root
need not be a quotient, so one of the same place stands for it. -/
theorem exists_approximates_sqrt (m : Nat) : ∃ y : ℚ,
    Approximates (.ofMantissaAndAccuracy m.sqrt (if m - m.sqrt * m.sqrt = 0 then .exact
      else .inexact (if m - m.sqrt * m.sqrt ≤ m.sqrt then .lt else .gt))) y ∧
    (m.sqrt : ℚ) ≤ y ∧ ∀ n : Nat, m ≤ n * n → y ≤ n := by
  have hle := Nat.sqrt_le m
  have hupper : ∀ n : Nat, m ≤ n * n → m.sqrt ≤ n := fun n hn => by
    rw [← Nat.sqrt_eq n]
    exact Nat.sqrt_le_sqrt hn
  by_cases hexact : m - m.sqrt * m.sqrt = 0
  · rw [if_pos hexact]
    exact ⟨_, approximates_exact _, le_rfl, fun n hn => by exact_mod_cast hupper n hn⟩
  · have hbelow : ∀ n : Nat, m ≤ n * n → (m.sqrt : ℚ) + 1 ≤ n := fun n hn => by
      have hne : m.sqrt ≠ n := by rintro rfl; omega
      exact_mod_cast lt_of_le_of_ne (hupper n hn) hne
    rw [if_neg hexact]
    split
    · refine ⟨m.sqrt + 1 / 4, approximates_lt_iff.2 ⟨?_, ?_⟩, ?_, fun n hn => ?_⟩
      · linarith
      · linarith
      · linarith
      · linarith [hbelow n hn]
    · refine ⟨m.sqrt + 3 / 4, approximates_gt_iff.2 ⟨?_, ?_⟩, ?_, fun n hn => ?_⟩
      · linarith
      · linarith
      · linarith
      · linarith [hbelow n hn]

section Sqrt

variable {m : Nat}

theorem two_pow_sqrt_le {n : Nat} (h : 2 ^ (2 * n) ≤ m) : 2 ^ n ≤ m.sqrt := by
  rw [Nat.le_sqrt, ← pow_add]
  rwa [two_mul] at h

/-- A root is rounded from a value that is on the same side of each power of two as the exact one. -/
theorem exists_sqrt_finite (hm : 0 < m) : ∃ q e' X, RoundsAt X e' q ∧
    (∀ j : Int, (2 : ℚ) ^ (2 * j) ≤ m * 2 ^ e → 2 ^ j ≤ X) ∧
    (∀ j : Int, (m * 2 ^ e : ℚ) ≤ 2 ^ (2 * j) → X ≤ 2 ^ j) ∧
    UnpackedFloat.sqrt Format.binary64 (.finite .positive m e hm) =
      ofSignificand .positive q e' := by
  have hsqrt : UnpackedFloat.sqrt Format.binary64 (.finite .positive m e hm) =
      roundWithAccuracy Format.binary64 .positive (sqrtCore Format.binary64 m e).1
        (sqrtCore Format.binary64 m e).2.1 (sqrtCore Format.binary64 m e).2.2 := rfl
  rw [hsqrt]
  unfold sqrtCore
  simp only [Nat.shiftLeft_eq]
  have hhalf : ∀ z : Int, z.ediv 2 = z / 2 := fun _ => rfl
  rw [targetExponent_eq, totalExponent, hhalf, hhalf]
  generalize hT : min (e / 2) (max (((m.log2 : Int) + 1 + e + 1) / 2 - 53) (-1074)) = T
  have hTe : 2 * T ≤ e := by omega
  have hscaled := decreased_mul_zpow m e (2 * T)
  rw [min_eq_right hTe] at hscaled
  have hbits : ¬T ≤ -1074 → 2 ^ 52 ≤ (m * 2 ^ (e - 2 * T).toNat).sqrt := by
    intro hgt
    refine two_pow_sqrt_le ((Nat.le_log2 (by positivity)).1 ?_)
    rw [log2_mul_two_pow hm]
    omega
  have hM : 0 < m * 2 ^ (e - 2 * T).toNat := by positivity
  rw [← hscaled]
  generalize m * 2 ^ (e - 2 * T).toNat = M at hM hbits ⊢
  obtain ⟨y, happrox, hlo, hhi⟩ := exists_approximates_sqrt M
  have hroot : 0 < M.sqrt := Nat.sqrt_pos.2 hM
  have htarget : T ≤ Format.binary64.targetExponent (totalExponent M.sqrt T) := by
    rw [targetExponent_eq, totalExponent]
    by_cases hle : T ≤ -1074
    · omega
    · have hlog := (Nat.le_log2 hroot.ne').2 (hbits hle)
      omega
  obtain ⟨q, e', hround, heq⟩ := exists_roundWithAccuracy (s := .positive) (.inl hroot) htarget happrox
  have hpos : (0 : ℚ) < 2 ^ T := by positivity
  have hsquare : ∀ {j : Int}, T ≤ j → (2 : ℚ) ^ (2 * j) =
      ((2 ^ (j - T).toNat * 2 ^ (j - T).toNat : ℕ) : ℚ) * 2 ^ (2 * T) := fun {j} hj => by
    rw [zpow_eq_mul_zpow (show 2 * T ≤ 2 * j by omega), ← pow_add]
    congr 3
    omega
  refine ⟨q, e', y * 2 ^ T, hround, fun j hj => ?_, fun j hj => ?_, heq⟩
  · rcases le_or_gt T j with hTj | hTj
    · rw [hsquare hTj, mul_le_mul_iff_left₀ (by positivity), Nat.cast_le] at hj
      rw [zpow_eq_mul_zpow hTj]
      refine mul_le_mul_of_nonneg_right (le_trans ?_ hlo) hpos.le
      exact_mod_cast Nat.le_sqrt.2 hj
    · -- the root is a whole number at that scale, and not zero
      have hone : (1 : ℚ) ≤ y := le_trans (by exact_mod_cast hroot) hlo
      calc (2 : ℚ) ^ j ≤ 1 * 2 ^ T := by
            rw [one_mul]; exact zpow_le_zpow_right₀ one_le_two hTj.le
        _ ≤ y * 2 ^ T := mul_le_mul_of_nonneg_right hone hpos.le
  · have hTj : T ≤ j := by
      by_contra hlt
      have hone : (1 : ℚ) * 2 ^ (2 * T) ≤ M * 2 ^ (2 * T) :=
        mul_le_mul_of_nonneg_right (by exact_mod_cast hM) (by positivity)
      rw [one_mul] at hone
      have hexp := (zpow_le_zpow_iff_right₀ (one_lt_two (α := ℚ))).1 (hone.trans hj)
      omega
    rw [hsquare hTj, mul_le_mul_iff_left₀ (by positivity), Nat.cast_le] at hj
    rw [zpow_eq_mul_zpow hTj]
    exact mul_le_mul_of_nonneg_right (hhi _ hj) hpos.le

end Sqrt

theorem sqrt_eq_packed (hx : x.isNaN = false) :
    x.sqrt = packed (UnpackedFloat.sqrt Format.binary64 x.unpacked) := by
  unfold Binary64.sqrt
  rw [hx, if_neg Bool.false_ne_true, ← unpack_toFloat hx]
  rfl

theorem number_of_sqrt (h : x.sqrt.isNaN = false) : x.isNaN = false := by
  by_contra hn
  unfold Binary64.sqrt at h
  rw [if_pos (eq_true_of_ne_false hn)] at h
  exact hn h

theorem sqrt_negZero : negZero.sqrt = negZero := rfl

section Root

variable (hx : x.NotBelowZero)
include hx

theorem NotBelowZero.sqrt : x.sqrt.NotBelowZero := by
  rcases hx with rfl | hx
  · exact .inl sqrt_negZero
  · exact .inr (NonNegative.sqrt hx)

theorem AtMost.sqrt (h : AtMost (2 * k) x) (hk : -1074 ≤ k) (hk' : k ≤ 1023) : AtMost k x.sqrt := by
  rcases hx with rfl | hx
  · exact atMost_of_magnitude_zero rfl k
  rw [sqrt_eq_packed h.number]
  have hclear := clear_unpacked h.number hx
  have hu := unpacksTo h.number
  generalize x.unpacked = u at hu hclear
  cases hu with
  | infinity s hs => rw [h.finite] at hs; cases hs
  | zero s => cases hclear; exact atMost_packed_zero _
  | finite s m e hm hfin hsize =>
    cases hclear
    obtain ⟨q, e', X, hround, -, hupper, heq⟩ := exists_sqrt_finite (e := e) hm
    rw [heq]
    refine atMost_packed hround hk hk' ((hupper k ?_).trans (le_add_of_nonneg_right (by positivity)))
    rw [← hsize]
    exact h.size_le

theorem AtLeast.sqrt (h : AtLeast (2 * k) x) (hk : -1074 ≤ k) : AtLeast k x.sqrt := by
  rcases hx with rfl | hx
  · exact absurd h (not_atLeast_of_magnitude_zero rfl _)
  rw [sqrt_eq_packed h.number]
  have hclear := clear_unpacked h.number hx
  have hu := unpacksTo h.number
  generalize x.unpacked = u at hu hclear
  cases hu with
  | infinity s hs => cases hclear; exact atLeast_packed_infinity _
  | zero s hfin hsize => exact absurd hsize (h.size_pos hfin).ne'
  | finite s m e hm hfin hsize =>
    cases hclear
    obtain ⟨q, e', X, hround, hlower, -, heq⟩ := exists_sqrt_finite (e := e) hm
    rw [heq]
    refine atLeast_packed hround hk (hlower k ?_)
    rw [← hsize]
    exact h.le_size hfin

end Root

end DocSearch.Binary64
