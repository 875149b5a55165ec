/-
Finite scores. A score is a finite number exactly if the dot product is finite and the product of the
two lengths is a number. The quotient itself does no harm: a dot product that is too great to be
divided by the small constant has a product among its terms that is almost as great, and then the
lengths, which are not below its factors, are great as well. Where no weight is greater than 2^484,
nothing comes near the end of the range.
-/
import DocSearch.Proofs.Binary64.Roots
import DocSearch.Proofs.Ranking.Ties
import DocSearch.Proofs.Snapshot.Change

namespace DocSearch

open Binary64

namespace TermVector

variable {v w : TermVector Binary64} {epsilon : Binary64} {i j k : Int}

/-! ## Lengths -/

/-- The squares of the weights. -/
def squares (v : TermVector Binary64) : List Binary64 := v.toList.map fun e => e.2 * e.2

theorem norm_eq (v : TermVector Binary64) : v.norm = (Scalar.sum v.squares).sqrt := rfl

theorem mem_squares {t : String} {x : Binary64} (h : v[t]? = some x) : x * x ∈ v.squares :=
  List.mem_map.2 ⟨(t, x), Std.ExtTreeMap.mem_toList_iff_getElem?_eq_some.2 h, rfl⟩

theorem exists_of_mem_squares {y : Binary64} (h : y ∈ v.squares) :
    ∃ (t : String) (x : Binary64), v[t]? = some x ∧ x * x = y := by
  obtain ⟨e, he, rfl⟩ := List.mem_map.1 h
  exact ⟨e.1, e.2, Std.ExtTreeMap.mem_toList_iff_getElem?_eq_some.1 he, rfl⟩

theorem nonNegative_of_mem_squares {y : Binary64} (h : y ∈ v.squares) : y.NonNegative := by
  obtain ⟨t, x, -, rfl⟩ := exists_of_mem_squares h
  exact nonNegative_mul_self x

theorem notBelowZero_sum_squares (v : TermVector Binary64) : (Scalar.sum v.squares).NotBelowZero :=
  notBelowZero_sum fun _ => nonNegative_of_mem_squares

theorem notBelowZero_norm (v : TermVector Binary64) : v.norm.NotBelowZero := by
  rw [norm_eq]
  exact v.notBelowZero_sum_squares.sqrt

/-- A length that is a number is not below the weight of any term. -/
theorem atLeast_norm {t : String} {x : Binary64} (h : v[t]? = some x) (hx : AtLeast i x)
    (hi : -537 ≤ i) (hn : v.norm.isNaN = false) : AtLeast i v.norm := by
  rw [norm_eq] at hn ⊢
  have hlarge : AtLeast (2 * i) (Scalar.sum v.squares) := by
    rw [two_mul]
    exact .sum (by omega) (fun y => nonNegative_of_mem_squares) (number_of_sqrt hn)
      ⟨_, mem_squares h, hx.mul hx (by omega)⟩
  exact .sqrt v.notBelowZero_sum_squares hlarge (by omega)

/-- Whether no weight of a vector is greater than `2 ^ k`, whatever its sign. -/
def Bounded (k : Int) (v : TermVector Binary64) : Prop :=
  ∀ (t : String) (x : Binary64), v[t]? = some x → AtMost k x

theorem Bounded.atMost_weight (h : v.Bounded k) (t : String) : AtMost k (v.weight t) := by
  unfold TermVector.weight
  cases hx : v[t]? with
  | none => exact atMost_of_magnitude_zero rfl k
  | some x => exact h t x hx

/-- The length of a vector with bounded weights does not come near the end of the range. -/
theorem Bounded.atMost_norm (h : v.Bounded 484) : AtMost 511 v.norm := by
  have hsum : AtMost (2 * 511) (Scalar.sum v.squares) := by
    refine AtMost.sum (k := 968) (by decide) (by decide) fun y hy => ?_
    obtain ⟨t, x, hx, rfl⟩ := exists_of_mem_squares hy
    exact (h t x hx).mul (h t x hx) (by decide) (by decide)
  rw [norm_eq]
  exact .sqrt v.notBelowZero_sum_squares hsum (by decide) (by decide)

/-! ## Dot products -/

/-- The products that a dot product is the sum of. -/
def products (small large : TermVector Binary64) : List Binary64 :=
  small.toList.map fun e => e.2 * large.weight e.1

theorem dotOver_eq (v w : TermVector Binary64) : dotOver v w = Scalar.sum (v.products w) := rfl

theorem exists_of_mem_products {y : Binary64} (h : y ∈ v.products w) :
    ∃ (t : String) (x : Binary64), v[t]? = some x ∧ x * w.weight t = y := by
  obtain ⟨e, he, rfl⟩ := List.mem_map.1 h
  exact ⟨e.1, e.2, Std.ExtTreeMap.mem_toList_iff_getElem?_eq_some.1 he, rfl⟩

theorem Bounded.atMost_dotOver (hv : v.Bounded 484) (hw : w.Bounded 484) :
    AtMost 1022 (dotOver v w) := by
  rw [dotOver_eq]
  refine AtMost.sum (k := 968) (by decide) (by decide) fun y hy => ?_
  obtain ⟨t, x, hx, rfl⟩ := exists_of_mem_products hy
  exact (hv t x hx).mul (hw.atMost_weight t) (by decide) (by decide)

theorem Bounded.atMost_dot (hv : v.Bounded 484) (hw : w.Bounded 484) : AtMost 1022 (dot v w) := by
  unfold dot
  split
  · exact hv.atMost_dotOver hw
  · exact hw.atMost_dotOver hv

/-- Whether some weight of a vector is at least `2 ^ k`, whatever its sign. -/
def Reaches (k : Int) (v : TermVector Binary64) : Prop :=
  ∃ (t : String) (x : Binary64), v[t]? = some x ∧ AtLeast k x

theorem reaches_of_weight {t : String} (h : AtLeast k (w.weight t)) : w.Reaches k := by
  unfold TermVector.weight at h
  cases hx : w[t]? with
  | none =>
    rw [hx] at h
    exact absurd h (not_atLeast_of_magnitude_zero rfl k)
  | some x =>
    rw [hx] at h
    exact ⟨t, x, hx, h⟩

/-- A great dot product has a term that is almost as great, as however many small ones do not add up
to it. -/
theorem exists_reaches_of_dotOver (hfin : (dotOver v w).isFinite = true)
    (hlarge : ¬AtMost 989 (dotOver v w)) :
    ∃ i j, 934 ≤ i + j ∧ i ≤ 1023 ∧ j ≤ 1023 ∧ v.Reaches i ∧ w.Reaches j := by
  rw [dotOver_eq] at hfin hlarge
  by_contra hnone
  refine hlarge (AtMost.sum (k := 935) (by decide) (by decide) fun y hy => ?_)
  by_contra hy'
  obtain ⟨t, x, hx, rfl⟩ := exists_of_mem_products hy
  obtain ⟨i, j, hij, hi, hj, hlox, hlow⟩ := exists_factors_of_mul (finite_of_sum hfin _ hy) hy'
  exact hnone ⟨i, j, hij, hi, hj, ⟨t, x, hx, hlox⟩, reaches_of_weight hlow⟩

theorem exists_reaches_of_dot (hfin : (dot v w).isFinite = true) (hlarge : ¬AtMost 989 (dot v w)) :
    ∃ i j, 934 ≤ i + j ∧ i ≤ 1023 ∧ j ≤ 1023 ∧ v.Reaches i ∧ w.Reaches j := by
  unfold dot at hfin hlarge
  split at hfin
  · rename_i hsize
    rw [if_pos hsize] at hlarge
    exact exists_reaches_of_dotOver hfin hlarge
  · rename_i hsize
    rw [if_neg hsize] at hlarge
    obtain ⟨i, j, hij, hi, hj, hw, hv⟩ := exists_reaches_of_dotOver hfin hlarge
    exact ⟨j, i, by omega, hj, hi, hv, hw⟩

/-! ## Cosines -/

/-- Where a small constant is positive, a cosine is finite exactly if the dot product is and the
product of the lengths is a number. -/
theorem isFinite_cosine_iff (he : epsilon.NonNegative) (hsmall : AtLeast (-34) epsilon) :
    (cosine v w epsilon).isFinite = true ↔
      (dot v w).isFinite = true ∧ (v.norm * w.norm).isNaN = false := by
  unfold cosine
  constructor
  · intro h
    exact ⟨finite_of_div h, (number_of_add (number_of_div (isNaN_of_isFinite h)).2).1⟩
  · rintro ⟨hdot, hnum⟩
    obtain ⟨hnv, hnw⟩ := number_of_mul hnum
    have hlengths := v.notBelowZero_norm.mul w.notBelowZero_norm hnum
    have hdenominator : ∀ {k : Int}, -1074 ≤ k → AtLeast k (v.norm * w.norm) ∨ AtLeast k epsilon →
        AtLeast k (v.norm * w.norm + epsilon) := fun hk h =>
      .add hlengths he hnum hsmall.number hk h
    by_cases hmost : AtMost 989 (dot v w)
    · exact (hmost.div (hdenominator (by decide) (.inr hsmall)) (by decide) (by decide)).finite
    · obtain ⟨i, j, hij, hi, hj, ⟨t, x, hx, hlox⟩, ⟨u, y, hy, hloy⟩⟩ :=
        exists_reaches_of_dot hdot hmost
      have hproduct : AtLeast 934 (v.norm * w.norm) :=
        ((atLeast_norm hx hlox (by omega) hnv).mul (atLeast_norm hy hloy (by omega) hnw)
          (by omega)).mono hij
      have hquotient := (atMost_of_finite hdot).div (hdenominator (by decide) (.inl hproduct))
      exact (hquotient (by decide) (by decide)).finite

theorem Bounded.isFinite_cosine (hv : v.Bounded 484) (hw : w.Bounded 484) (he : epsilon.NonNegative)
    (hsmall : AtLeast (-34) epsilon) : (cosine v w epsilon).isFinite = true := by
  have hlengths : AtMost (511 + 511) (v.norm * w.norm) :=
    hv.atMost_norm.mul hw.atMost_norm (by decide) (by decide)
  exact (isFinite_cosine_iff he hsmall).2 ⟨(hv.atMost_dot hw).finite, hlengths.number⟩

end TermVector

/-! ## The hits of a search -/

namespace Engine

theorem atLeast_epsilon : AtLeast (-34) RankingConfig.standard.epsilon := by
  refine ⟨rfl, fun _ => ?_⟩
  have hdecode : RankingConfig.standard.epsilon.decode = (7737125245533627, -86) := rfl
  unfold size
  rw [hdecode]
  norm_num

/-- Under the default configuration the score of a hit is finite exactly if the dot product of its
document and the query is finite and the product of their lengths is a number. Both hold where no
weight of the document or of the query is greater than 2^484, whatever its sign. -/
theorem isFinite_score_iff (m : Model Binary64) (authority : Option (Authority Binary64)) (s : Space)
    (query : String) (k : Nat) {h : Hit Binary64}
    (hh : h ∈ (Engine.mk m authority .standard).search s query k) :
    ∃ v, (m.space s).vectors[h.doc]? = some v ∧
      (h.score.isFinite = true ↔ (TermVector.dot v (m.vectorize s query)).isFinite = true ∧
        (v.norm * (m.vectorize s query).norm).isNaN = false) ∧
      (v.Bounded 484 → (m.vectorize s query).Bounded 484 → h.score.isFinite = true) := by
  have hepsilon : RankingConfig.standard.epsilon.NonNegative := by decide
  obtain ⟨v, hv, hs⟩ := score_of_mem_search hh
  refine ⟨v, hv, ?_, fun hdocument hquery => ?_⟩
  · rw [hs]
    exact TermVector.isFinite_cosine_iff hepsilon atLeast_epsilon
  · rw [hs]
    exact hdocument.isFinite_cosine hquery hepsilon atLeast_epsilon

/-- A snapshot with one document, which has the term `cat` with the given weight and frequency. -/
def weightTree (weight : String) : FileTree :=
  ((FileTree.empty.putDirectory ["data", "weights"]).putFile ["data", "lemma_map.txt"]
    "".toUTF8).putFile ["data", "weights", "tfidf_tokens1.txt"]
      ("cat " ++ weight ++ " " ++ weight ++ "\n").toUTF8

/-- The squares of 1e150 are still in the range. -/
theorem isFinite_score_weightTree : ∃ m, Snapshot.loadModel ⟨⟨"data"⟩⟩ (weightTree "1e150") = .ok m ∧
    ∃ h ∈ (Engine.mk m none .standard).search .tokens "cat" 10, h.score.isFinite = true := by
  obtain ⟨m, hm, hfinite⟩ := exists_eq_ok_of_any
    (r := Snapshot.loadModel ⟨⟨"data"⟩⟩ (weightTree "1e150"))
    (P := fun m => ((m.space .tokens).vectors[(1 : DocId)]?).any fun v =>
      ((Engine.mk m none .standard).search .tokens "cat" 10).any fun h => decide (h.doc = 1) &&
        (TermVector.dot v (m.vectorize .tokens "cat")).isFinite &&
        !(v.norm * (m.vectorize .tokens "cat").norm).isNaN) (by decide +kernel)
  obtain ⟨v, hv, hfinite⟩ := (Option.any_eq_true _ _).1 hfinite
  obtain ⟨h, hh, hfinite⟩ := List.any_eq_true.1 hfinite
  simp only [Bool.and_eq_true, decide_eq_true_eq, Bool.not_eq_true'] at hfinite
  obtain ⟨⟨hdoc, hdot⟩, hnumber⟩ := hfinite
  obtain ⟨v', hv', hiff, -⟩ := isFinite_score_iff m none .tokens "cat" 10 hh
  rw [hdoc, hv, Option.some.injEq] at hv'
  subst hv'
  exact ⟨m, hm, h, hh, hiff.2 ⟨hdot, hnumber⟩⟩

/-- With 1e200 the dot product and the product of the lengths are infinite, and so the quotient is no
number. -/
theorem not_isFinite_score_weightTree :
    ∃ m, Snapshot.loadModel ⟨⟨"data"⟩⟩ (weightTree "1e200") = .ok m ∧
      (Engine.mk m none .standard).search .tokens "cat" 10 = [⟨1, invalid, none⟩] ∧
      invalid.isFinite = false := by
  obtain ⟨m, hm, hsearch⟩ := exists_eq_ok_of_any
    (r := Snapshot.loadModel ⟨⟨"data"⟩⟩ (weightTree "1e200"))
    (P := fun m => decide ((Engine.mk m none .standard).search .tokens "cat" 10 =
      [⟨1, invalid, none⟩])) (by decide +kernel)
  exact ⟨m, hm, of_decide_eq_true hsearch, by decide⟩

end Engine

end DocSearch
