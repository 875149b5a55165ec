/-
Signs of results. Sums, products, quotients and roots of numbers with a clear sign bit have a clear
sign bit, or are no numbers; and a sum of such numbers has one although it starts from negative
zero, unless it has no terms.
-/
import DocSearch.Proofs.Binary64.Compare

namespace DocSearch.Binary64

open Float.Model Float.Model.UnpackedFloat

/-! ## Unpacked results -/

/-- The numbers with a clear sign bit, and what is no number. -/
inductive Clear : UnpackedFloat → Prop
  | notANumber : Clear .notANumber
  | infinity : Clear (.infinity .positive)
  | zero : Clear (.zero .positive)
  | finite (m : Nat) (e : Int) (hm : 0 < m) : Clear (.finite .positive m e hm)

section Unpacked

variable {u v : UnpackedFloat} {spec : Format}

theorem clear_roundWithAccuracy (m : Nat) (e : Int) (acc : Accuracy) :
    Clear (roundWithAccuracy spec .positive m e acc) := by
  unfold roundWithAccuracy
  simp only
  split
  · exact .zero
  · exact .finite ..

theorem clear_normalize {m : Int} (hm : 0 ≤ m) (e : Int) :
    Clear (UnpackedFloat.normalize spec m e .positive) := by
  unfold UnpackedFloat.normalize
  split
  · rename_i h
    exact absurd (compare_lt_iff_lt.1 h) (not_lt.2 hm)
  · exact .zero
  · exact clear_roundWithAccuracy ..

theorem clear_add (hu : Clear u) (hv : Clear v) : Clear (UnpackedFloat.add spec u v) := by
  cases hu <;> cases hv
  case finite.finite =>
    exact clear_normalize (Int.add_nonneg (Int.natCast_nonneg _) (Int.natCast_nonneg _)) _
  all_goals constructor

theorem clear_mul (hu : Clear u) (hv : Clear v) : Clear (UnpackedFloat.mul spec u v) := by
  cases hu <;> cases hv
  case finite.finite => exact clear_roundWithAccuracy ..
  all_goals constructor

theorem clear_div (hu : Clear u) (hv : Clear v) : Clear (UnpackedFloat.div spec u v) := by
  cases hu <;> cases hv
  case finite.finite => exact clear_roundWithAccuracy ..
  all_goals constructor

theorem clear_sqrt (hu : Clear u) : Clear (UnpackedFloat.sqrt spec u) := by
  cases hu
  case finite => exact clear_roundWithAccuracy ..
  all_goals constructor

end Unpacked

/-! ## Results -/

/-- Whether a pattern has a clear sign bit, if it is a number. -/
def NonNegative (x : Binary64) : Prop := x.isNaN = false → x.isNegative = false

instance : DecidablePred NonNegative := fun x =>
  inferInstanceAs (Decidable (x.isNaN = false → x.isNegative = false))

variable {x y : Binary64}

theorem NonNegative.ne_negZero (h : x.NonNegative) : x ≠ negZero := by
  rintro rfl
  cases h (by decide)

theorem clear_unpacked (hx : x.isNaN = false) (h : x.NonNegative) : Clear x.unpacked := by
  have hsign : x.sign = .positive := by rw [sign, h hx]; rfl
  unfold unpacked UnpackedFloat.unpack
  simp only [ofBitVec_unpackSign, hsign]
  repeat' split
  all_goals constructor

theorem unpackSign_pack {u : UnpackedFloat} (hu : Clear u) :
    @unpackSign Format.binary64 (UnpackedFloat.pack Format.binary64 u) = 0#1 := by
  have hpositive : ∀ e m,
      @unpackSign Format.binary64 (packComponents Format.binary64 .positive e m) = 0#1 :=
    fun e m => unpackSign_packComponents ..
  cases hu with
  | finite m e hm =>
    unfold UnpackedFloat.pack
    simp only
    repeat' split
    all_goals exact hpositive _ _
  | _ => exact hpositive _ _

theorem nonNegative_ofResult {u : UnpackedFloat} (hu : Clear u) :
    (ofResult (.ofModel (Float.Model.pack u))).NonNegative := by
  unfold ofResult
  simp only
  split
  · intro h; cases h
  · intro _
    have hsign := ofBitVec_unpackSign ⟨(Float.Model.pack u).toBits⟩
    have hclear : Sign.ofBitVec (@unpackSign Format.binary64 (Float.Model.pack u).toBits.toBitVec) =
      .positive := congrArg Sign.ofBitVec (unpackSign_pack hu)
    rw [hclear, sign] at hsign
    split at hsign
    · cases hsign
    · rename_i h; exact eq_false_of_ne_true h

/-- Whether an operation is that of unpacked numbers. -/
def Unpacks (op : Float → Float → Float) (f : UnpackedFloat → UnpackedFloat → UnpackedFloat) : Prop :=
  ∀ a b, op a b = .ofModel (Float.Model.pack (f a.toModel.unpack b.toModel.unpack))

section Combine

variable {op : Float → Float → Float} {f : UnpackedFloat → UnpackedFloat → UnpackedFloat}

theorem combine_of_numbers (hop : Unpacks op f) (hx : x.isNaN = false) (hy : y.isNaN = false) :
    combine op x y = ofResult (.ofModel (Float.Model.pack (f x.unpacked y.unpacked))) := by
  rw [combine, hx, hy, if_neg Bool.false_ne_true, if_neg Bool.false_ne_true, hop,
    unpack_toFloat hx, unpack_toFloat hy]

theorem nonNegative_combine (hop : Unpacks op f)
    (hf : x.isNaN = false → y.isNaN = false → Clear (f x.unpacked y.unpacked)) :
    (combine op x y).NonNegative := by
  cases hx : x.isNaN with
  | true =>
    rw [combine, if_pos hx]
    intro h; rw [hx] at h; cases h
  | false =>
    cases hy : y.isNaN with
    | true =>
      rw [combine, hx, if_neg Bool.false_ne_true, if_pos hy]
      intro h; rw [hy] at h; cases h
    | false =>
      rw [combine_of_numbers hop hx hy]
      exact nonNegative_ofResult (hf hx hy)

end Combine

theorem NonNegative.add (hx : x.NonNegative) (hy : y.NonNegative) : (x + y).NonNegative :=
  nonNegative_combine (fun _ _ => rfl) fun h h' =>
    clear_add (clear_unpacked h hx) (clear_unpacked h' hy)

theorem NonNegative.mul (hx : x.NonNegative) (hy : y.NonNegative) : (x * y).NonNegative :=
  nonNegative_combine (fun _ _ => rfl) fun h h' =>
    clear_mul (clear_unpacked h hx) (clear_unpacked h' hy)

theorem NonNegative.div (hx : x.NonNegative) (hy : y.NonNegative) : (x / y).NonNegative :=
  nonNegative_combine (fun _ _ => rfl) fun h h' =>
    clear_div (clear_unpacked h hx) (clear_unpacked h' hy)

theorem NonNegative.sqrt (hx : x.NonNegative) : x.sqrt.NonNegative := by
  unfold Binary64.sqrt
  split
  · exact hx
  · rename_i hnan
    have hnan := eq_false_of_ne_true hnan
    have hop : x.toFloat.sqrt =
        .ofModel (Float.Model.pack (UnpackedFloat.sqrt Format.binary64 x.unpacked)) := by
      rw [← unpack_toFloat hnan]
      rfl
    rw [hop]
    exact nonNegative_ofResult (clear_sqrt (clear_unpacked hnan hx))

/-! ## Negative zero -/

theorem ofResult_pack_unpacked (hx : x.isNaN = false) :
    ofResult (.ofModel (Float.Model.pack x.unpacked)) = x := by
  have hpack := @pack_unpack Format.binary64 x.bits.toBitVec (by decide)
  rw [isNaNBits_eq, hx, if_neg Bool.false_ne_true] at hpack
  have hbits : Binary64.mk (Float.ofModel (Float.Model.pack x.unpacked)).toBits = x :=
    congrArg (fun b => Binary64.mk (UInt64.ofBitVec b)) hpack
  unfold ofResult
  rw [hbits]
  exact if_neg (by rw [hx]; decide)

theorem unpacked_negZero : negZero.unpacked = .zero .negative := rfl

theorem negZero_add_unpacked (spec : Format) (u : UnpackedFloat) :
    UnpackedFloat.add spec (.zero .negative) u = u := by
  cases u with
  | zero s => cases s <;> rfl
  | _ => rfl

/-- Sums start from the number that changes no sum. -/
theorem negZero_add (x : Binary64) : negZero + x = x := by
  have hadd : negZero + x = combine (· + ·) negZero x := rfl
  cases hx : x.isNaN with
  | true => rw [hadd, combine, if_neg (by decide), if_pos hx]
  | false =>
    have hop : Unpacks (· + ·) (UnpackedFloat.add Format.binary64) := fun _ _ => rfl
    rw [hadd, combine_of_numbers hop (by decide) hx, unpacked_negZero, negZero_add_unpacked,
      ofResult_pack_unpacked hx]

theorem isNaN_of_isFinite (hx : x.isFinite = true) : x.isNaN = false := by
  rw [isFinite, decide_eq_true_iff] at hx
  exact decide_eq_false (by omega)

/-- A finite number with a clear sign bit is zero or has a significand. -/
theorem unpacked_of_isFinite (hx : x.isFinite = true) (h : x.NonNegative) :
    (x = zero ∧ x.unpacked = .zero .positive) ∨ ∃ m e hm, x.unpacked = .finite .positive m e hm := by
  have hnan := isNaN_of_isFinite hx
  have hplace : x.place = x.magnitude := by rw [place, sign, h hnan]; rfl
  obtain ⟨hcanonical, hunpacked⟩ := canonical_unpacked hnan
  have hclear := clear_unpacked hnan h
  rw [hplace] at hunpacked
  rw [isFinite, decide_eq_true_iff] at hx
  generalize x.unpacked = u at *
  cases hclear with
  | notANumber => exact hcanonical.elim
  | infinity =>
    have hmag : (infinityMagnitude : Int) = x.magnitude := hunpacked
    omega
  | zero =>
    have hmag : (0 : Int) = x.magnitude := hunpacked
    exact .inl ⟨eq_zero_of_magnitude (h hnan) (by omega), rfl⟩
  | finite m e hm => exact .inr ⟨m, e, hm, rfl⟩

theorem ofResult_pack_negZero : ofResult (.ofModel (Float.Model.pack (.zero .negative))) = negZero := by
  decide +kernel

theorem negZero_mul (hx : x.isFinite = true) (h : x.NonNegative) : negZero * x = negZero := by
  have hmul : negZero * x = combine (· * ·) negZero x := rfl
  have hop : Unpacks (· * ·) (UnpackedFloat.mul Format.binary64) := fun _ _ => rfl
  rw [hmul, combine_of_numbers hop (by decide) (isNaN_of_isFinite hx), unpacked_negZero]
  rcases unpacked_of_isFinite hx h with ⟨-, hu⟩ | ⟨m, e, hm, hu⟩
  · rw [hu]; exact ofResult_pack_negZero
  · rw [hu]; exact ofResult_pack_negZero

theorem negZero_div (hx : x.isFinite = true) (h : x.NonNegative) (hne : x ≠ zero) :
    negZero / x = negZero := by
  have hdiv : negZero / x = combine (· / ·) negZero x := rfl
  have hop : Unpacks (· / ·) (UnpackedFloat.div Format.binary64) := fun _ _ => rfl
  rw [hdiv, combine_of_numbers hop (by decide) (isNaN_of_isFinite hx), unpacked_negZero]
  obtain ⟨m, e, hm, hu⟩ := (unpacked_of_isFinite hx h).resolve_left fun hzero => hne hzero.1
  rw [hu]
  exact ofResult_pack_negZero

/-! ## Sums -/

theorem nonNegative_foldl : ∀ {xs : List Binary64} {x : Binary64}, x.NonNegative →
    (∀ y ∈ xs, y.NonNegative) → (xs.foldl (· + ·) x).NonNegative
  | [], _, hx, _ => hx
  | y :: ys, x, hx, h => by
    rw [List.foldl_cons]
    exact nonNegative_foldl (hx.add (h y List.mem_cons_self))
      fun z hz => h z (List.mem_cons_of_mem _ hz)

theorem nonNegative_sum {xs : List Binary64} (hne : xs ≠ []) (h : ∀ x ∈ xs, x.NonNegative) :
    (Scalar.sum xs).NonNegative := by
  cases xs with
  | nil => exact absurd rfl hne
  | cons x xs =>
    have hfirst : Scalar.emptySum + x = x := negZero_add x
    rw [Scalar.sum, List.foldl_cons, hfirst]
    exact nonNegative_foldl (h x List.mem_cons_self) fun y hy => h y (List.mem_cons_of_mem _ hy)

end DocSearch.Binary64
