/-
Bounds for sums by powers of two. A sum of numbers that are not negative is not below any of them, and
a sum of numbers with one bound stays below 2^54 times that bound, however many they are.
-/
import DocSearch.Proofs.Binary64.Bounds

namespace DocSearch.Binary64

open Float.Model Float.Model.UnpackedFloat

variable {x y : Binary64} {s : Sign} {e k : Int}

/-! ## Sums of two numbers -/

theorem decreaseExponent_eq (m : Nat) (e t : Int) :
    decreaseExponent m e t = (m * 2 ^ (e - t).toNat, min e t) := by
  unfold decreaseExponent
  simp only [Nat.shiftLeft_eq, Prod.mk.injEq, true_and]
  omega

/-- Decreasing the exponent keeps the value. -/
theorem decreased_mul_zpow (m : Nat) (e t : Int) :
    ((m * 2 ^ (e - t).toNat : ℕ) : ℚ) * 2 ^ min e t = m * 2 ^ e := by
  have hshift := zpow_eq_mul_zpow (min_le_left e t)
  rw [show (e - min e t).toNat = (e - t).toNat by omega] at hshift
  rw [hshift, Nat.cast_mul, mul_assoc]

theorem log2_mul_two_pow {m : Nat} (hm : 0 < m) (n : Nat) : (m * 2 ^ n).log2 = m.log2 + n := by
  rw [Nat.log2_eq_iff (by positivity), Nat.pow_succ, Nat.pow_add]
  have hlo := Nat.log2_self_le hm.ne'
  have hhi : m < 2 ^ (m.log2 + 1) := Nat.lt_log2_self
  rw [Nat.pow_succ] at hhi
  have hpos : 0 < 2 ^ n := by positivity
  constructor
  · exact Nat.mul_le_mul_right _ hlo
  · calc m * 2 ^ n < 2 ^ m.log2 * 2 * 2 ^ n := Nat.mul_lt_mul_of_pos_right hhi hpos
      _ = 2 ^ m.log2 * 2 ^ n * 2 := by ring

theorem exists_round {m : Nat} (hm : 0 < m) : ∃ q e', RoundsAt (m * 2 ^ e) e' q ∧
    UnpackedFloat.round Format.binary64 s m e = ofSignificand s q e' := by
  unfold UnpackedFloat.round
  simp only [decreaseExponent_eq]
  generalize ht : Format.binary64.targetExponent (totalExponent m e) = t
  have htotal : totalExponent (m * 2 ^ (e - t).toNat) (min e t) = totalExponent m e := by
    unfold totalExponent
    rw [log2_mul_two_pow hm]
    omega
  have hle : min e t ≤ Format.binary64.targetExponent
      (totalExponent (m * 2 ^ (e - t).toNat) (min e t)) := by
    rw [htotal, ht]
    exact min_le_right e t
  obtain ⟨q, e', hround, heq⟩ := exists_roundWithAccuracy (s := s)
    (.inl (Nat.mul_pos hm (Nat.pow_pos two_pos))) hle (approximates_exact _)
  rw [decreased_mul_zpow] at hround
  exact ⟨q, e', hround, heq⟩

theorem exists_normalize {m : Int} (hm : m ≠ 0) (z : Sign) : ∃ s q e',
    RoundsAt (|(m : ℚ)| * 2 ^ e) e' q ∧
      UnpackedFloat.normalize Format.binary64 m e z = ofSignificand s q e' := by
  unfold UnpackedFloat.normalize
  rcases lt_or_gt_of_ne hm with hlt | hgt
  · rw [compare_lt_iff_lt.2 hlt]
    obtain ⟨q, e', hround, heq⟩ := exists_round (s := .negative) (e := e) (m := (-m).toNat) (by omega)
    refine ⟨.negative, q, e', ?_, heq⟩
    have hcast : (((-m).toNat : ℕ) : ℚ) = |(m : ℚ)| := by
      rw [← Int.cast_natCast, Int.toNat_of_nonneg (by omega), Int.cast_neg, abs_of_neg]
      exact_mod_cast hlt
    rwa [hcast] at hround
  · rw [compare_gt_iff_gt.2 hgt]
    obtain ⟨q, e', hround, heq⟩ := exists_round (s := .positive) (e := e) (m := m.toNat) (by omega)
    refine ⟨.positive, q, e', ?_, heq⟩
    have hcast : ((m.toNat : ℕ) : ℚ) = |(m : ℚ)| := by
      rw [← Int.cast_natCast, Int.toNat_of_nonneg (by omega), abs_of_pos]
      exact_mod_cast hgt
    rwa [hcast] at hround

theorem abs_apply_add_apply_le (s t : Sign) (m n : Nat) :
    |((s.apply m + t.apply n : Int) : ℚ)| ≤ m + n := by
  have hm : (0 : ℚ) ≤ m := m.cast_nonneg
  have hn : (0 : ℚ) ≤ n := n.cast_nonneg
  cases s <;> cases t <;> simp only [Sign.apply] <;> push_cast <;> rw [abs_le] <;>
    constructor <;> linarith

theorem abs_apply_add_apply (s : Sign) (m n : Nat) :
    |((s.apply m + s.apply n : Int) : ℚ)| = m + n := by
  have hsum : (0 : ℚ) ≤ m + n := by positivity
  cases s <;> simp only [Sign.apply] <;> push_cast
  · rw [← neg_add, abs_neg, abs_of_nonneg hsum]
  · exact abs_of_nonneg hsum

/-- A sum is rounded from the exact one, which numbers of one sign reach. -/
theorem exists_add_finite {m n : Nat} {e f : Int} {s t : Sign} (hm : 0 < m) (hn : 0 < n) :
    (s ≠ t ∧ UnpackedFloat.add Format.binary64 (.finite s m e hm) (.finite t n f hn) =
      .zero .positive) ∨
    ∃ r q e' X, RoundsAt X e' q ∧ X ≤ m * 2 ^ e + n * 2 ^ f ∧ (s = t → X = m * 2 ^ e + n * 2 ^ f) ∧
      UnpackedFloat.add Format.binary64 (.finite s m e hm) (.finite t n f hn) =
        ofSignificand r q e' := by
  have hadd : UnpackedFloat.add Format.binary64 (.finite s m e hm) (.finite t n f hn) =
      UnpackedFloat.normalize Format.binary64
        (s.apply (m * 2 ^ (e - min e f).toNat : ℕ) + t.apply (n * 2 ^ (f - min e f).toNat : ℕ))
        (min e f) .positive := by
    unfold UnpackedFloat.add
    simp only [decreaseExponent_eq]
  have hleft := decreased_mul_zpow m e (min e f)
  have hright := decreased_mul_zpow n f (min e f)
  rw [show min e (min e f) = min e f by omega] at hleft
  rw [show min f (min e f) = min e f by omega] at hright
  rw [hadd, ← hleft, ← hright, ← add_mul]
  have hpos : 0 < m * 2 ^ (e - min e f).toNat := by positivity
  generalize m * 2 ^ (e - min e f).toNat = A at hpos ⊢
  generalize n * 2 ^ (f - min e f).toNat = B
  by_cases hzero : s.apply A + t.apply B = 0
  · refine .inl ⟨?_, by rw [hzero]; rfl⟩
    rintro rfl
    have habs := abs_apply_add_apply s A B
    rw [hzero, Int.cast_zero, abs_zero] at habs
    have hsum : (0 : ℚ) < A + B := by positivity
    exact hsum.ne habs
  · obtain ⟨r, q, e', hround, heq⟩ := exists_normalize (e := min e f) hzero .positive
    refine .inr ⟨r, q, e', _, hround, ?_, ?_, heq⟩
    · exact mul_le_mul_of_nonneg_right (abs_apply_add_apply_le s t A B) (by positivity)
    · rintro rfl
      rw [abs_apply_add_apply]

/-- A number that is smaller than the bound of a sum by more than the precision leaves that bound. -/
theorem AtMost.add (hx : AtMost (k + 54) x) (hy : AtMost k y) (h : -1074 ≤ k) (h' : k + 54 ≤ 1023) :
    AtMost (k + 54) (x + y) := by
  have hy' : AtMost (k + 54) y :=
    ⟨hy.finite, hy.size_le.trans (zpow_le_zpow_right₀ one_le_two (by omega))⟩
  have hpx := packed_unpacked hx.number
  have hpy := packed_unpacked hy.number
  rw [add_eq_packed hx.number hy.number]
  have hux := unpacksTo hx.number
  have huy := unpacksTo hy.number
  generalize x.unpacked = u at hux hpx
  generalize y.unpacked = v at huy hpy
  cases hux with
  | infinity s hs => rw [hx.finite] at hs; cases hs
  | zero s hfin hsize =>
    cases huy with
    | infinity t ht => rw [hy.finite] at ht; cases ht
    | zero t =>
      simp only [UnpackedFloat.add]
      split <;> exact atMost_packed_zero _
    | finite t n f hn => simp only [UnpackedFloat.add, hpy]; exact hy'
  | finite s m e hm hfin hsize =>
    cases huy with
    | infinity t ht => rw [hy.finite] at ht; cases ht
    | zero t => simp only [UnpackedFloat.add, hpx]; exact hx
    | finite t n f hn hfin' hsize' =>
      obtain ⟨-, heq⟩ | ⟨r, q, e', X, hround, hX, -, heq⟩ := exists_add_finite (e := e) (f := f)
        (s := s) (t := t) hm hn
      · rw [heq]; exact atMost_packed_zero _
      · rw [heq]
        refine atMost_packed hround (by omega) h' (hX.trans ?_)
        rw [← hsize, ← hsize', add_sub_cancel_right]
        exact add_le_add hx.size_le hy.size_le

/-- A sum of numbers that are not below zero is not below either of them. -/
theorem AtLeast.add (hx : x.NotBelowZero) (hy : y.NonNegative) (hnx : x.isNaN = false)
    (hny : y.isNaN = false) (hk : -1074 ≤ k) (h : AtLeast k x ∨ AtLeast k y) :
    AtLeast k (x + y) := by
  rcases hx with rfl | hx
  · rw [negZero_add]
    exact h.resolve_left (not_atLeast_of_magnitude_zero rfl k)
  have hpx := packed_unpacked hnx
  have hpy := packed_unpacked hny
  rw [add_eq_packed hnx hny]
  have hcx := clear_unpacked hnx hx
  have hcy := clear_unpacked hny hy
  have hux := unpacksTo hnx
  have huy := unpacksTo hny
  generalize x.unpacked = u at hux hpx hcx
  generalize y.unpacked = v at huy hpy hcy
  cases hux with
  | infinity s hs =>
    cases hcx
    cases huy with
    | infinity t ht => cases hcy; exact atLeast_packed_infinity _
    | zero t => exact atLeast_packed_infinity _
    | finite t n f hn => exact atLeast_packed_infinity _
  | zero s hfin hsize =>
    have hle := h.resolve_left fun hl => (hl.size_pos hfin).ne' hsize
    cases huy with
    | infinity t ht => exact atLeast_packed_infinity _
    | zero t hfin' hsize' => exact absurd hsize' (hle.size_pos hfin').ne'
    | finite t n f hn => simp only [UnpackedFloat.add, hpy]; exact hle
  | finite s m e hm hfin hsize =>
    cases huy with
    | infinity t ht => exact atLeast_packed_infinity _
    | zero t hfin' hsize' =>
      have hle := h.resolve_right fun hl => (hl.size_pos hfin').ne' hsize'
      simp only [UnpackedFloat.add, hpx]
      exact hle
    | finite t n f hn hfin' hsize' =>
      cases hcx
      cases hcy
      obtain ⟨hne, -⟩ | ⟨r, q, e', X, hround, -, hX, heq⟩ := exists_add_finite (e := e) (f := f)
        (s := .positive) (t := .positive) hm hn
      · exact absurd rfl hne
      · rw [heq]
        refine atLeast_packed hround hk ?_
        rw [hX rfl, ← hsize, ← hsize']
        rcases h with h | h
        · exact (h.le_size hfin).trans (le_add_of_nonneg_right y.size_nonneg)
        · exact (h.le_size hfin').trans (le_add_of_nonneg_left x.size_nonneg)

/-! ## Sums -/

/-- However many numbers are added, their sum stays below 2^54 times their bound: there a further one
is less than half a step. -/
theorem AtMost.foldl (h : -1074 ≤ k) (h' : k + 54 ≤ 1023) : ∀ {ys : List Binary64} {x : Binary64},
    AtMost (k + 54) x → (∀ y ∈ ys, AtMost k y) → AtMost (k + 54) (ys.foldl (· + ·) x)
  | [], _, hx, _ => hx
  | y :: ys, x, hx, hys => by
    rw [List.foldl_cons]
    exact foldl h h' (hx.add (hys y List.mem_cons_self) h h')
      fun z hz => hys z (List.mem_cons_of_mem y hz)

theorem AtMost.sum {xs : List Binary64} (h : -1074 ≤ k) (h' : k + 54 ≤ 1023)
    (hxs : ∀ x ∈ xs, AtMost k x) : AtMost (k + 54) (Scalar.sum xs) :=
  AtMost.foldl h h' (atMost_of_magnitude_zero rfl _) hxs

/-- What an operand must satisfy for a sum to do so, all terms of a sum must satisfy. -/
theorem forall_of_foldl {P : Binary64 → Prop} (hP : ∀ {x y : Binary64}, P (x + y) → P x ∧ P y) :
    ∀ (ys : List Binary64) {x : Binary64}, P (ys.foldl (· + ·) x) → P x ∧ ∀ y ∈ ys, P y
  | [], _, h => ⟨h, nofun⟩
  | y :: ys, x, h => by
    obtain ⟨hsum, hys⟩ := forall_of_foldl hP ys h
    obtain ⟨hx, hy⟩ := hP hsum
    refine ⟨hx, fun z hz => ?_⟩
    rcases List.mem_cons.1 hz with rfl | hz
    · exact hy
    · exact hys z hz

theorem finite_of_sum {xs : List Binary64} (h : (Scalar.sum xs).isFinite = true) :
    ∀ x ∈ xs, x.isFinite = true :=
  (forall_of_foldl (P := fun x => x.isFinite = true) finite_of_add xs h).2

theorem AtLeast.foldl (hk : -1074 ≤ k) : ∀ {ys : List Binary64} {x : Binary64}, x.NotBelowZero →
    (∀ y ∈ ys, y.NonNegative) → (ys.foldl (· + ·) x).isNaN = false →
      (AtLeast k x ∨ ∃ y ∈ ys, AtLeast k y) → AtLeast k (ys.foldl (· + ·) x)
  | [], _, _, _, _, h => h.resolve_right fun ⟨y, hy, _⟩ => absurd hy List.not_mem_nil
  | y :: ys, x, hx, hys, hn, h => by
    rw [List.foldl_cons] at hn ⊢
    obtain ⟨hsum, -⟩ := forall_of_foldl (P := fun x => x.isNaN = false) number_of_add ys hn
    obtain ⟨hnx, hny⟩ := number_of_add hsum
    have hy := hys y List.mem_cons_self
    refine AtLeast.foldl hk (.inr (hx.add hy)) (fun z hz => hys z (List.mem_cons_of_mem y hz)) hn ?_
    rcases h with h | ⟨z, hz, h⟩
    · exact .inl (.add hx hy hnx hny hk (.inl h))
    · rcases List.mem_cons.1 hz with rfl | hz
      · exact .inl (.add hx hy hnx hny hk (.inr h))
      · exact .inr ⟨z, hz, h⟩

/-- A sum of numbers that are not negative is not below any of them. -/
theorem AtLeast.sum {xs : List Binary64} (hk : -1074 ≤ k) (hxs : ∀ x ∈ xs, x.NonNegative)
    (hn : (Scalar.sum xs).isNaN = false) (h : ∃ x ∈ xs, AtLeast k x) : AtLeast k (Scalar.sum xs) :=
  AtLeast.foldl hk (.inl rfl) hxs hn (.inr h)

end DocSearch.Binary64
