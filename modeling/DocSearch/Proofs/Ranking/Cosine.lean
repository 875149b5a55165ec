/-
Cosines in exact arithmetic. A term that a vector lacks weighs nothing in it, so a dot product is the
sum over the terms of both vectors, whichever of them it is taken over. A length is the root of the
sum of the squared weights, and Cauchy and Schwarz bound the dot product by the two lengths; what is
added to their product keeps the cosine below one, also that of a vector with itself.
-/
import DocSearch.Proofs.Real
import DocSearch.Proofs.Weights.Records

namespace DocSearch.TermVector

variable {v w : TermVector ℝ} {epsilon : ℝ} {t : String}

/-! ## Sums over terms -/

/-- The terms that a vector has a weight for. -/
def terms {α : Type} (v : TermVector α) : Finset String := v.keys.toFinset

theorem mem_terms {α : Type} {v : TermVector α} : t ∈ v.terms ↔ ∃ x, v[t]? = some x := by
  rw [terms, List.mem_toFinset, Std.ExtTreeMap.mem_keys, Std.ExtTreeMap.mem_iff_isSome_getElem?,
    Option.isSome_iff_exists]

theorem weight_of_notMem (h : t ∉ v.terms) : v.weight t = 0 := by
  have hnone : v[t]? = none :=
    Option.eq_none_iff_forall_ne_some.2 fun x hx => h (mem_terms.2 ⟨x, hx⟩)
  rw [weight, hnone, Option.getD_none]
  exact Nat.cast_zero

/-- A sum over the entries of a vector is a sum over its terms. -/
theorem sum_entries (v : TermVector ℝ) (f : String → ℝ → ℝ) :
    Scalar.sum (v.toList.map fun e => f e.1 e.2) = ∑ t ∈ v.terms, f t (v.weight t) := by
  rw [Scalar.sum_eq_sum_real, terms, List.sum_toFinset _ Std.ExtTreeMap.nodup_keys,
    ← Std.ExtTreeMap.map_fst_toList_eq_keys, List.map_map]
  refine congrArg List.sum (List.map_congr_left fun e he => ?_)
  rw [Function.comp_apply, weight, Std.ExtTreeMap.mem_toList_iff_getElem?_eq_some.1 he,
    Option.getD_some]

/-! ## Dot products -/

/-- Taken over the terms of one vector, a dot product is the sum over the terms of both. -/
theorem dotOver_eq_sum (v w : TermVector ℝ) :
    dotOver v w = ∑ t ∈ v.terms ∩ w.terms, v.weight t * w.weight t := by
  rw [dotOver, sum_entries v fun t x => x * w.weight t]
  -- the terms that only `v` has weigh nothing in `w`
  refine (Finset.sum_subset Finset.inter_subset_left fun t hv ht => ?_).symm
  have hw : t ∉ w.terms := fun hw => ht (Finset.mem_inter.2 ⟨hv, hw⟩)
  rw [weight_of_notMem hw, mul_zero]

theorem dotOver_comm (v w : TermVector ℝ) : dotOver v w = dotOver w v := by
  rw [dotOver_eq_sum, dotOver_eq_sum, Finset.inter_comm]
  exact Finset.sum_congr rfl fun t _ => mul_comm _ _

/-- The vector whose terms are gone through makes no difference. -/
theorem dot_eq_dotOver (v w : TermVector ℝ) : dot v w = dotOver v w := by
  unfold dot
  split
  · rfl
  · exact dotOver_comm w v

theorem dot_comm (v w : TermVector ℝ) : dot v w = dot w v := by
  rw [dot_eq_dotOver, dot_eq_dotOver, dotOver_comm]

theorem dot_eq_sum (v w : TermVector ℝ) :
    dot v w = ∑ t ∈ v.terms ∩ w.terms, v.weight t * w.weight t := by
  rw [dot_eq_dotOver, dotOver_eq_sum]

theorem dot_eq_zero (h : Disjoint v.terms w.terms) : dot v w = 0 := by
  rw [dot_eq_sum, Finset.disjoint_iff_inter_eq_empty.1 h, Finset.sum_empty]

theorem dot_nonneg (hv : ∀ t ∈ v.terms, 0 ≤ v.weight t) (hw : ∀ t ∈ w.terms, 0 ≤ w.weight t) :
    0 ≤ dot v w := by
  rw [dot_eq_sum]
  refine Finset.sum_nonneg fun t ht => ?_
  obtain ⟨htv, htw⟩ := Finset.mem_inter.1 ht
  exact mul_nonneg (hv t htv) (hw t htw)

/-! ## Lengths -/

theorem norm_eq_sqrt (v : TermVector ℝ) : norm v = √(∑ t ∈ v.terms, v.weight t ^ 2) := by
  change √(Scalar.sum (v.toList.map fun e => e.2 * e.2)) = _
  rw [sum_entries v fun _ x => x * x]
  simp only [pow_two]

theorem norm_nonneg (v : TermVector ℝ) : 0 ≤ norm v := by
  rw [norm_eq_sqrt]
  exact Real.sqrt_nonneg _

theorem norm_sq (v : TermVector ℝ) : norm v ^ 2 = ∑ t ∈ v.terms, v.weight t ^ 2 := by
  rw [norm_eq_sqrt, Real.sq_sqrt (Finset.sum_nonneg fun t _ => sq_nonneg _)]

theorem dot_self (v : TermVector ℝ) : dot v v = norm v ^ 2 := by
  rw [dot_eq_sum, norm_sq, Finset.inter_self]
  exact Finset.sum_congr rfl fun t _ => (pow_two _).symm

theorem sum_sq_inter_le (v w : TermVector ℝ) :
    ∑ t ∈ v.terms ∩ w.terms, v.weight t ^ 2 ≤ norm v ^ 2 := by
  rw [norm_sq]
  exact Finset.sum_le_sum_of_subset_of_nonneg Finset.inter_subset_left fun t _ _ => sq_nonneg _

/-- The squares of the terms of both vectors are some of the squares of either. -/
theorem abs_dot_le (v w : TermVector ℝ) : |dot v w| ≤ norm v * norm w := by
  refine abs_le_of_sq_le_sq ?_ (mul_nonneg (norm_nonneg v) (norm_nonneg w))
  have hw := sum_sq_inter_le w v
  rw [Finset.inter_comm] at hw
  calc dot v w ^ 2
      = (∑ t ∈ v.terms ∩ w.terms, v.weight t * w.weight t) ^ 2 := by rw [dot_eq_sum]
    _ ≤ (∑ t ∈ v.terms ∩ w.terms, v.weight t ^ 2) * ∑ t ∈ v.terms ∩ w.terms, w.weight t ^ 2 :=
        Finset.sum_mul_sq_le_sq_mul_sq _ _ _
    _ ≤ norm v ^ 2 * norm w ^ 2 :=
        mul_le_mul (sum_sq_inter_le v w) hw (Finset.sum_nonneg fun t _ => sq_nonneg _) (sq_nonneg _)
    _ = (norm v * norm w) ^ 2 := (mul_pow _ _ _).symm

/-! ## Cosines -/

theorem denominator_pos (v w : TermVector ℝ) (he : 0 < epsilon) : 0 < norm v * norm w + epsilon :=
  add_pos_of_nonneg_of_pos (mul_nonneg (norm_nonneg v) (norm_nonneg w)) he

theorem cosine_comm (v w : TermVector ℝ) (epsilon : ℝ) : cosine v w epsilon = cosine w v epsilon := by
  rw [cosine, cosine, dot_comm, mul_comm (norm v)]

theorem abs_cosine_lt_one (v w : TermVector ℝ) (he : 0 < epsilon) : |cosine v w epsilon| < 1 := by
  have hpos := denominator_pos v w he
  rw [cosine, abs_div, abs_of_pos hpos, div_lt_one hpos]
  exact (abs_dot_le v w).trans_lt (lt_add_of_pos_right _ he)

/-- In exact numbers a dot product is the sum of the products of the weights at the terms of both
vectors, over whichever vector it is taken. The cosine is the same both ways and always between minus
one and one; it is not negative where no weight is, zero for vectors without a common term, and that
of a vector with itself falls short of one by what is added to its squared length. -/
theorem cosine_isSimilarity (v w : TermVector ℝ) (he : 0 < epsilon) :
    (dotOver v w = ∑ t ∈ v.terms ∩ w.terms, v.weight t * w.weight t ∧
      dotOver w v = ∑ t ∈ v.terms ∩ w.terms, v.weight t * w.weight t ∧
      dot v w = ∑ t ∈ v.terms ∩ w.terms, v.weight t * w.weight t) ∧
    cosine v w epsilon = cosine w v epsilon ∧
    |cosine v w epsilon| < 1 ∧
    ((∀ t ∈ v.terms, 0 ≤ v.weight t) → (∀ t ∈ w.terms, 0 ≤ w.weight t) → 0 ≤ cosine v w epsilon) ∧
    (Disjoint v.terms w.terms → cosine v w epsilon = 0) ∧
    norm v = √(∑ t ∈ v.terms, v.weight t ^ 2) ∧
    cosine v v epsilon = norm v ^ 2 / (norm v ^ 2 + epsilon) := by
  refine ⟨⟨dotOver_eq_sum v w, ?_, dot_eq_sum v w⟩, cosine_comm v w epsilon, abs_cosine_lt_one v w he,
    fun hv hw => ?_, fun h => ?_, norm_eq_sqrt v, ?_⟩
  · rw [dotOver_comm, dotOver_eq_sum]
  · exact div_nonneg (dot_nonneg hv hw) (denominator_pos v w he).le
  · rw [cosine, dot_eq_zero h, zero_div]
  · rw [cosine, dot_self, ← pow_two]

theorem mem_terms_ofEntries {es : List (String × ℝ)} : t ∈ (ofEntries es).terms ↔ ∃ e ∈ es, e.1 = t := by
  rw [mem_terms, ofEntries, exists_getElem?_foldl_insert_iff Prod.fst Prod.snd,
    or_iff_left fun ⟨x, hx⟩ => by rw [Std.ExtTreeMap.getElem?_empty] at hx; cases hx]

theorem weight_ofEntries_nonneg {es : List (String × ℝ)} (h : ∀ e ∈ es, 0 ≤ e.2) :
    ∀ t ∈ (ofEntries es).terms, 0 ≤ (ofEntries es).weight t := by
  intro t ht
  obtain ⟨x, hx⟩ := mem_terms.1 ht
  rw [weight, hx]
  exact h (t, x) (mem_of_getElem?_ofEntries hx)

/-- A vector of two terms. -/
noncomputable def cats : TermVector ℝ := ofEntries [("cat", 1), ("dog", 2)]

/-- A vector that shares a term with `cats`. -/
noncomputable def dogs : TermVector ℝ := ofEntries [("dog", 3)]

/-- A vector that shares none with it. -/
noncomputable def fish : TermVector ℝ := ofEntries [("fish", 5)]

theorem cosine_isSimilarity_cats : (0 : ℝ) < 1 ∧
    (∀ t ∈ cats.terms, 0 ≤ cats.weight t) ∧ (∀ t ∈ dogs.terms, 0 ≤ dogs.weight t) ∧
    Disjoint cats.terms fish.terms ∧
    0 ≤ cosine cats dogs 1 ∧ |cosine cats dogs 1| < 1 ∧ cosine cats fish 1 = 0 := by
  have hone : (0 : ℝ) < 1 := one_pos
  have hcats : ∀ t ∈ cats.terms, 0 ≤ cats.weight t := weight_ofEntries_nonneg (by norm_num)
  have hdogs : ∀ t ∈ dogs.terms, 0 ≤ dogs.weight t := weight_ofEntries_nonneg (by norm_num)
  have hdisjoint : Disjoint cats.terms fish.terms := by
    refine Finset.disjoint_left.2 fun t hc hf => ?_
    obtain ⟨e, he, rfl⟩ := mem_terms_ofEntries.1 hc
    obtain ⟨e', he', heq⟩ := mem_terms_ofEntries.1 hf
    simp only [List.mem_cons, List.not_mem_nil, or_false] at he he'
    subst he'
    rcases he with rfl | rfl
    · exact absurd heq (by decide)
    · exact absurd heq (by decide)
  obtain ⟨-, -, hlt, hnonneg, -⟩ := cosine_isSimilarity cats dogs hone
  obtain ⟨-, -, -, -, hzero, -⟩ := cosine_isSimilarity cats fish hone
  exact ⟨hone, hcats, hdogs, hdisjoint, hnonneg hcats hdogs, hlt, hzero hdisjoint⟩

end DocSearch.TermVector
