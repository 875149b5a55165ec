/-
Bounds for products by powers of two. A product has the bounds of the exact one, and one that is great
has great factors. A result that is finite comes from finite operands, and one that is a number from
numbers.
-/
import DocSearch.Proofs.Binary64.Packing

namespace DocSearch.Binary64

open Float.Model Float.Model.UnpackedFloat

variable {x y : Binary64} {s : Sign} {a b e j k : Int} {q : Nat}

/-! ## Bounds -/

/-- Whether a finite number has an absolute value of at most `2 ^ k`. -/
structure AtMost (k : Int) (x : Binary64) : Prop where
  finite : x.isFinite = true
  size_le : x.size ≤ 2 ^ k

/-- Whether a number or an infinity has an absolute value of at least `2 ^ k`. -/
structure AtLeast (k : Int) (x : Binary64) : Prop where
  number : x.isNaN = false
  le_size : x.isFinite = true → 2 ^ k ≤ x.size

theorem AtMost.number (h : AtMost k x) : x.isNaN = false := isNaN_of_isFinite h.finite

theorem AtMost.mono (h : AtMost j x) (hjk : j ≤ k) : AtMost k x :=
  ⟨h.finite, h.size_le.trans (zpow_le_zpow_right₀ one_le_two hjk)⟩

theorem AtLeast.mono (h : AtLeast j x) (hkj : k ≤ j) : AtLeast k x :=
  ⟨h.number, fun hfin => (zpow_le_zpow_right₀ one_le_two hkj).trans (h.le_size hfin)⟩

theorem size_nonneg (x : Binary64) : 0 ≤ x.size := by unfold size; positivity

theorem AtLeast.size_pos (h : AtLeast k x) (hfin : x.isFinite = true) : 0 < x.size :=
  lt_of_lt_of_le (by positivity) (h.le_size hfin)

theorem size_of_magnitude_zero (h : x.magnitude = 0) : x.size = 0 := by
  rw [size_of_magnitude (e := -1074) (q := 0) le_rfl h (by decide) (by omega), Nat.cast_zero, zero_mul]

theorem atMost_of_magnitude_zero (h : x.magnitude = 0) (k : Int) : AtMost k x :=
  ⟨by rw [isFinite, h]; rfl, by rw [size_of_magnitude_zero h]; positivity⟩

theorem not_atLeast_of_magnitude_zero (h : x.magnitude = 0) (k : Int) : ¬AtLeast k x := fun hlarge =>
  (hlarge.size_pos (atMost_of_magnitude_zero h k).finite).ne' (size_of_magnitude_zero h)

section Packed

variable {X : ℚ} (h : RoundsAt X e q)
include h

theorem magnitude_packed_of_roundsAt : (packed (ofSignificand s q e)).magnitude =
    min ((e + 1074).toNat * 0x10000000000000 + q) infinityMagnitude :=
  magnitude_packed_ofSignificand h.least h.le_two_pow h.leading_le

theorem atMost_packed (hk : -1074 ≤ k) (hk' : k ≤ 1023) (hX : X ≤ 2 ^ k + 2 ^ (k - 54)) :
    AtMost k (packed (ofSignificand s q e)) := by
  have hle := h.le_zpow_of_le hk hX
  have htop : (q : ℚ) * 2 ^ e ≤ 2 ^ (1023 : Int) :=
    hle.trans (zpow_le_zpow_right₀ one_le_two hk')
  have hmag : (e + 1074).toNat * 0x10000000000000 + q < infinityMagnitude := by
    have hq := h.le_two_pow
    unfold infinityMagnitude
    rcases le_or_gt e 970 with he | he
    · omega
    · -- at the greatest exponent only the least significand is left
      have hlead := h.leading_le (by omega)
      have hlead' : ((2 ^ 52 : ℕ) : ℚ) ≤ q := by exact_mod_cast hlead
      have hexp : (2 : ℚ) ^ (e + 52) ≤ 2 ^ (1023 : Int) := by
        refine le_trans ?_ htop
        rw [zpow_add₀ two_ne_zero, mul_comm]
        exact mul_le_mul_of_nonneg_right (by exact_mod_cast hlead') (by positivity)
      have he' := (zpow_le_zpow_iff_right₀ (one_lt_two (α := ℚ))).1 hexp
      obtain rfl : e = 971 := by omega
      have hq' : (q : ℚ) ≤ (2 ^ 52 : ℕ) := by
        rw [zpow_eq_mul_zpow (show (971 : Int) ≤ 1023 by decide)] at htop
        exact le_of_mul_le_mul_right htop (by positivity)
      have hq'' : q ≤ 2 ^ 52 := by exact_mod_cast hq'
      omega
  have hmin := magnitude_packed_of_roundsAt (s := s) h
  rw [min_eq_left hmag.le] at hmin
  refine ⟨?_, ?_⟩
  · rw [isFinite, hmin]
    exact decide_eq_true hmag
  · rw [size_of_magnitude h.least hmin h.le_two_pow h.leading_le]
    exact hle

theorem atLeast_packed (hk : -1074 ≤ k) (hX : (2 : ℚ) ^ k ≤ X) :
    AtLeast k (packed (ofSignificand s q e)) := by
  have hmin := magnitude_packed_of_roundsAt (s := s) h
  refine ⟨decide_eq_false (by rw [hmin]; omega), fun hfin => ?_⟩
  rw [isFinite, hmin, decide_eq_true_iff] at hfin
  rw [min_eq_left (by omega)] at hmin
  rw [size_of_magnitude h.least hmin h.le_two_pow h.leading_le]
  exact h.le_of_zpow_le hk hX

end Packed

theorem atMost_packed_zero (k : Int) : AtMost k (packed (.zero s)) :=
  atMost_of_magnitude_zero magnitude_packed_zero k

theorem atLeast_packed_infinity (k : Int) : AtLeast k (packed (.infinity s)) := by
  have hmag : (packed (.infinity s)).magnitude = infinityMagnitude := magnitude_packed_infinity
  refine ⟨by rw [isNaN, hmag]; exact decide_eq_false (lt_irrefl _), fun hfin => ?_⟩
  rw [isFinite, hmag, decide_eq_true_iff] at hfin
  exact absurd hfin (lt_irrefl _)

/-! ## Operations on patterns -/

section Combine

variable {op : Float → Float → Float} {f : UnpackedFloat → UnpackedFloat → UnpackedFloat}

theorem packed_unpacked (hx : x.isNaN = false) : packed x.unpacked = x := ofResult_pack_unpacked hx

theorem combine_eq_packed (hop : Unpacks op f) (hx : x.isNaN = false) (hy : y.isNaN = false) :
    combine op x y = packed (f x.unpacked y.unpacked) := combine_of_numbers hop hx hy

/-- A result that is a number comes from numbers. -/
theorem number_of_combine (h : (combine op x y).isNaN = false) :
    x.isNaN = false ∧ y.isNaN = false := by
  unfold combine at h
  split at h
  · rename_i hx; rw [hx] at h; cases h
  · split at h
    · rename_i hy; rw [hy] at h; cases h
    · rename_i hx hy; exact ⟨eq_false_of_ne_true hx, eq_false_of_ne_true hy⟩

end Combine

theorem isFinite_packed_infinity : (packed (.infinity s)).isFinite = false := by
  rw [isFinite, magnitude_packed_infinity]
  exact decide_eq_false (lt_irrefl _)

theorem isFinite_packed_notANumber : (packed .notANumber).isFinite = false := rfl

theorem number_of_add (h : (x + y).isNaN = false) : x.isNaN = false ∧ y.isNaN = false :=
  number_of_combine h

theorem number_of_mul (h : (x * y).isNaN = false) : x.isNaN = false ∧ y.isNaN = false :=
  number_of_combine h

theorem number_of_div (h : (x / y).isNaN = false) : x.isNaN = false ∧ y.isNaN = false :=
  number_of_combine h

section Numbers

variable (hx : x.isNaN = false) (hy : y.isNaN = false)
include hx hy

theorem add_eq_packed : x + y = packed (UnpackedFloat.add Format.binary64 x.unpacked y.unpacked) :=
  combine_eq_packed (fun _ _ => rfl) hx hy

theorem mul_eq_packed : x * y = packed (UnpackedFloat.mul Format.binary64 x.unpacked y.unpacked) :=
  combine_eq_packed (fun _ _ => rfl) hx hy

theorem div_eq_packed : x / y = packed (UnpackedFloat.div Format.binary64 x.unpacked y.unpacked) :=
  combine_eq_packed (fun _ _ => rfl) hx hy

end Numbers

theorem finite_of_mul (h : (x * y).isFinite = true) : x.isFinite = true ∧ y.isFinite = true := by
  obtain ⟨hx, hy⟩ := number_of_mul (isNaN_of_isFinite h)
  rw [mul_eq_packed hx hy] at h
  have hux := unpacksTo hx
  have huy := unpacksTo hy
  generalize x.unpacked = u at h hux
  generalize y.unpacked = v at h huy
  cases hux <;> cases huy <;> simp only [UnpackedFloat.mul, isFinite_packed_infinity,
    isFinite_packed_notANumber, Bool.false_eq_true] at h
  all_goals exact ⟨by assumption, by assumption⟩

theorem finite_of_add (h : (x + y).isFinite = true) : x.isFinite = true ∧ y.isFinite = true := by
  obtain ⟨hx, hy⟩ := number_of_add (isNaN_of_isFinite h)
  rw [add_eq_packed hx hy] at h
  have hux := unpacksTo hx
  have huy := unpacksTo hy
  generalize x.unpacked = u at h hux
  generalize y.unpacked = v at h huy
  cases hux <;> cases huy
  case infinity.infinity s hs t ht =>
    unfold UnpackedFloat.add at h
    simp only at h
    split at h
    · rw [isFinite_packed_infinity] at h; cases h
    · rw [isFinite_packed_notANumber] at h; cases h
  all_goals simp only [UnpackedFloat.add, isFinite_packed_infinity, Bool.false_eq_true] at h
  all_goals exact ⟨by assumption, by assumption⟩

theorem finite_of_div (h : (x / y).isFinite = true) : x.isFinite = true := by
  obtain ⟨hx, hy⟩ := number_of_div (isNaN_of_isFinite h)
  rw [div_eq_packed hx hy] at h
  have hux := unpacksTo hx
  generalize x.unpacked = u at h hux
  cases hux
  case infinity s hs =>
    generalize y.unpacked = v at h
    cases v <;> simp only [UnpackedFloat.div, isFinite_packed_infinity, isFinite_packed_notANumber,
      Bool.false_eq_true] at h
  all_goals assumption

/-! ## Products -/

/-- The product of two significands has enough bits to be rounded. -/
theorem le_targetExponent_mul {m n : Nat} {e f : Int} (hm : 0 < m) (hn : 0 < n)
    (hme : m < 2 ^ 52 → e = -1074) (hnf : n < 2 ^ 52 → f = -1074) :
    e + f ≤ Format.binary64.targetExponent (totalExponent (m * n) (e + f)) := by
  rw [targetExponent_eq, totalExponent]
  by_cases hsub : m < 2 ^ 52 ∧ n < 2 ^ 52
  · have he := hme hsub.1
    have hf := hnf hsub.2
    omega
  · have hmul : 2 ^ 52 ≤ m * n := by
      rcases not_and_or.1 hsub with h | h
      · exact (not_lt.1 h).trans (Nat.le_mul_of_pos_right m hn)
      · exact (not_lt.1 h).trans (Nat.le_mul_of_pos_left n hm)
    have hlog : 52 ≤ (m * n).log2 := (Nat.le_log2 (Nat.mul_pos hm hn).ne').2 hmul
    omega

theorem exists_mul_finite {m n : Nat} {e f : Int} {t : Sign} {hm : 0 < m} {hn : 0 < n}
    (hme : m < 2 ^ 52 → e = -1074) (hnf : n < 2 ^ 52 → f = -1074) :
    ∃ q e', RoundsAt (m * 2 ^ e * (n * 2 ^ f)) e' q ∧
      UnpackedFloat.mul Format.binary64 (.finite s m e hm) (.finite t n f hn) =
        ofSignificand (s * t) q e' := by
  obtain ⟨q, e', hround, heq⟩ := exists_roundWithAccuracy (s := s * t) (.inl (Nat.mul_pos hm hn))
    (le_targetExponent_mul hm hn hme hnf) (approximates_exact (m * n))
  refine ⟨q, e', ?_, heq⟩
  convert hround using 1
  rw [zpow_add₀ two_ne_zero, Nat.cast_mul]
  ring

theorem AtMost.mul (hx : AtMost a x) (hy : AtMost b y) (h : -1074 ≤ a + b) (h' : a + b ≤ 1023) :
    AtMost (a + b) (x * y) := by
  have hsizes : x.size * y.size ≤ 2 ^ (a + b) := by
    rw [zpow_add₀ two_ne_zero]
    exact mul_le_mul hx.size_le hy.size_le y.size_nonneg (by positivity)
  rw [mul_eq_packed hx.number hy.number]
  have hux := unpacksTo hx.number
  have huy := unpacksTo hy.number
  generalize x.unpacked = u at hux
  generalize y.unpacked = v at huy
  cases hux with
  | infinity s hs => rw [hx.finite] at hs; cases hs
  | zero s hfin hsize =>
    cases huy with
    | infinity t ht => rw [hy.finite] at ht; cases ht
    | zero t => exact atMost_packed_zero _
    | finite t n f hn => exact atMost_packed_zero _
  | finite s m e hm hfin hsize he hme =>
    cases huy with
    | infinity t ht => rw [hy.finite] at ht; cases ht
    | zero t => exact atMost_packed_zero _
    | finite t n f hn hfin' hsize' hf hnf =>
      obtain ⟨q, e', hround, heq⟩ := exists_mul_finite hme hnf
      rw [heq]
      refine atMost_packed hround h h' ?_
      rw [← hsize, ← hsize']
      exact hsizes.trans (le_add_of_nonneg_right (by positivity))

theorem AtLeast.mul (hx : AtLeast a x) (hy : AtLeast b y) (h : -1074 ≤ a + b) :
    AtLeast (a + b) (x * y) := by
  rw [mul_eq_packed hx.number hy.number]
  have hux := unpacksTo hx.number
  have huy := unpacksTo hy.number
  generalize x.unpacked = u at hux
  generalize y.unpacked = v at huy
  cases hux with
  | zero s hfin hsize => exact absurd hsize (hx.size_pos hfin).ne'
  | infinity s hs =>
    cases huy with
    | zero t hfin' hsize' => exact absurd hsize' (hy.size_pos hfin').ne'
    | infinity t ht => exact atLeast_packed_infinity _
    | finite t n f hn => exact atLeast_packed_infinity _
  | finite s m e hm hfin hsize he hme =>
    cases huy with
    | zero t hfin' hsize' => exact absurd hsize' (hy.size_pos hfin').ne'
    | infinity t ht => exact atLeast_packed_infinity _
    | finite t n f hn hfin' hsize' hf hnf =>
      obtain ⟨q, e', hround, heq⟩ := exists_mul_finite hme hnf
      rw [heq]
      refine atLeast_packed hround h ?_
      rw [← hsize, ← hsize', zpow_add₀ two_ne_zero]
      exact mul_le_mul (hx.le_size hfin) (hy.le_size hfin') (by positivity) x.size_nonneg

/-! ## Factors of a great product -/

theorem size_lt (h : x.isFinite = true) : x.size < 2 ^ (1024 : Int) := by
  obtain ⟨hm, he⟩ := decode_le h
  have hm' : (x.decode.1 : ℚ) ≤ (2 ^ 53 - 1 : ℕ) := by exact_mod_cast hm
  calc x.size ≤ (2 ^ 53 - 1 : ℕ) * 2 ^ (971 : Int) :=
        mul_le_mul hm' (zpow_le_zpow_right₀ one_le_two he) (by positivity) (by positivity)
    _ = maxFinite := cast_maxFinite.symm
    _ < 2 ^ (1024 : Int) := cast_maxFinite_lt

theorem atMost_of_finite (h : x.isFinite = true) : AtMost 1024 x := ⟨h, (size_lt h).le⟩

/-- A finite number other than zero is between two powers of two. -/
theorem exists_binade (h : x.isFinite = true) (hpos : 0 < x.size) :
    ∃ i ≤ 1023, AtLeast i x ∧ AtMost (i + 1) x := by
  obtain ⟨i, hlo, hhi⟩ := exists_mem_Ico_zpow hpos (one_lt_two (α := ℚ))
  have hexp := (zpow_lt_zpow_iff_right₀ (one_lt_two (α := ℚ))).1 (hlo.trans_lt (size_lt h))
  exact ⟨i, by omega, ⟨isNaN_of_isFinite h, fun _ => hlo⟩, ⟨h, hhi.le⟩⟩

theorem exists_factors_of_mul (h : (x * y).isFinite = true) (hlarge : ¬AtMost 935 (x * y)) :
    ∃ i j, 934 ≤ i + j ∧ i ≤ 1023 ∧ j ≤ 1023 ∧ AtLeast i x ∧ AtLeast j y := by
  obtain ⟨hx, hy⟩ := finite_of_mul h
  have hproduct : ∀ {a b : Int}, a + b = 935 → AtMost a x → AtMost b y → False := fun hab ha hb =>
    hlarge (hab ▸ ha.mul hb (by omega) (by omega))
  have hposx : 0 < x.size := by
    refine lt_of_le_of_ne x.size_nonneg fun hzero => ?_
    exact hproduct (a := -89) (by decide) ⟨hx, by rw [← hzero]; positivity⟩ (atMost_of_finite hy)
  have hposy : 0 < y.size := by
    refine lt_of_le_of_ne y.size_nonneg fun hzero => ?_
    exact hproduct (b := -89) (by decide) (atMost_of_finite hx) ⟨hy, by rw [← hzero]; positivity⟩
  obtain ⟨i, hi, hlox, hhix⟩ := exists_binade hx hposx
  obtain ⟨j, hj, hloy, hhiy⟩ := exists_binade hy hposy
  refine ⟨i, j, ?_, hi, hj, hlox, hloy⟩
  by_contra hlt
  exact hproduct (a := 935 - (j + 1)) (by omega) (hhix.mono (by omega)) hhiy

/-! ## Numbers that are not below zero -/

/-- Whether a number is negative zero, or has a clear sign bit. -/
def NotBelowZero (x : Binary64) : Prop := x = negZero ∨ x.NonNegative

theorem NotBelowZero.add (hx : x.NotBelowZero) (hy : y.NonNegative) : (x + y).NonNegative := by
  rcases hx with rfl | hx
  · rwa [negZero_add]
  · exact NonNegative.add hx hy

theorem notBelowZero_sum {xs : List Binary64} (h : ∀ x ∈ xs, x.NonNegative) :
    (Scalar.sum xs).NotBelowZero := by
  by_cases hne : xs = []
  · exact .inl (by rw [hne]; rfl)
  · exact .inr (nonNegative_sum hne h)

theorem clear_mul_self (spec : Format) (u : UnpackedFloat) : Clear (UnpackedFloat.mul spec u u) := by
  cases u with
  | notANumber => exact .notANumber
  | infinity s => cases s <;> exact .infinity
  | zero s => cases s <;> exact .zero
  | finite s m e hm => cases s <;> exact clear_roundWithAccuracy ..

theorem nonNegative_mul_self (x : Binary64) : (x * x).NonNegative :=
  nonNegative_combine (fun _ _ => rfl) fun _ _ => clear_mul_self _ _

theorem nonNegative_of_isNaN (h : x.isNaN = true) : x.NonNegative := fun hn => by
  rw [h] at hn; cases hn

theorem packed_negZero : packed (.zero .negative) = negZero := ofResult_pack_negZero

/-- A product with negative zero is negative zero, or no number. -/
theorem notBelowZero_packed_mul {u v : UnpackedFloat} (hu : u = .zero .negative ∨ Clear u)
    (hv : v = .zero .negative ∨ Clear v) :
    (packed (UnpackedFloat.mul Format.binary64 u v)).NotBelowZero := by
  have hinvalid : (packed .notANumber).NotBelowZero := .inr (nonNegative_of_isNaN rfl)
  rcases hu with rfl | hu
  · rcases hv with rfl | hv
    · exact .inr (nonNegative_ofResult .zero)
    · cases hv with
      | notANumber => exact hinvalid
      | infinity => exact hinvalid
      | zero => exact .inl packed_negZero
      | finite => exact .inl packed_negZero
  · rcases hv with rfl | hv
    · cases hu with
      | notANumber => exact hinvalid
      | infinity => exact hinvalid
      | zero => exact .inl packed_negZero
      | finite => exact .inl packed_negZero
    · exact .inr (nonNegative_ofResult (clear_mul hu hv))

theorem NotBelowZero.unpacked (h : x.NotBelowZero) (hn : x.isNaN = false) :
    x.unpacked = .zero .negative ∨ Clear x.unpacked := by
  rcases h with rfl | h
  · exact .inl unpacked_negZero
  · exact .inr (clear_unpacked hn h)

theorem NotBelowZero.mul (hx : x.NotBelowZero) (hy : y.NotBelowZero)
    (h : (x * y).isNaN = false) : (x * y).NotBelowZero := by
  obtain ⟨hnx, hny⟩ := number_of_mul h
  rw [mul_eq_packed hnx hny]
  exact notBelowZero_packed_mul (hx.unpacked hnx) (hy.unpacked hny)

end DocSearch.Binary64
