/-
Hits of equal scores. Numbers are ranked as they compare, except that the total order tells the two
zeros apart: a hit of positive zero comes before one of negative zero whatever their authorities
are. Without negative weights that score is the mark of a document without terms, whose dot product
is a sum without terms and so negative zero.
-/
import DocSearch.Defaults
import DocSearch.Proofs.Binary64.Sign
import DocSearch.Proofs.Ranking.TopK

namespace DocSearch

open Binary64

/-! ## Scores of zero -/

namespace TermVector

variable {v w : TermVector Binary64} {epsilon : Binary64}

/-- Whether no weight of a vector is a negative number. -/
def NonNegative (v : TermVector Binary64) : Prop := ∀ e ∈ v.toList, e.2.NonNegative

instance : DecidablePred NonNegative := fun v =>
  inferInstanceAs (Decidable (∀ e ∈ v.toList, e.2.NonNegative))

theorem nonNegative_weight (hv : v.NonNegative) (term : String) : (v.weight term).NonNegative := by
  unfold weight
  cases h : v[term]? with
  | none => decide
  | some x => exact hv (term, x) (Std.ExtTreeMap.mem_toList_iff_getElem?_eq_some.2 h)

theorem toList_ne_nil (hne : v ≠ ∅) : v.toList ≠ [] := fun h => hne (by simpa using h)

theorem nonNegative_dotOver (hv : v.NonNegative) (hw : w.NonNegative) (hne : v ≠ ∅) :
    (dotOver v w).NonNegative := by
  refine nonNegative_sum (by simpa using toList_ne_nil hne) fun x hx => ?_
  obtain ⟨e, he, rfl⟩ := List.mem_map.1 hx
  exact (hv e he).mul (nonNegative_weight hw e.1)

theorem nonNegative_dot (hv : v.NonNegative) (hw : w.NonNegative) (hvne : v ≠ ∅) (hwne : w ≠ ∅) :
    (dot v w).NonNegative := by
  unfold dot
  split
  · exact nonNegative_dotOver hv hw hvne
  · exact nonNegative_dotOver hw hv hwne

theorem nonNegative_norm (hv : v.NonNegative) (hne : v ≠ ∅) : v.norm.NonNegative := by
  refine Binary64.NonNegative.sqrt (nonNegative_sum (by simpa using toList_ne_nil hne) fun x hx => ?_)
  obtain ⟨e, he, rfl⟩ := List.mem_map.1 hx
  exact (hv e he).mul (hv e he)

theorem nonNegative_cosine (hv : v.NonNegative) (hw : w.NonNegative) (hvne : v ≠ ∅) (hwne : w ≠ ∅)
    (he : epsilon.NonNegative) : (cosine v w epsilon).NonNegative :=
  (nonNegative_dot hv hw hvne hwne).div
    (((nonNegative_norm hv hvne).mul (nonNegative_norm hw hwne)).add he)

/-- The dot product of a vector without terms is the sum without terms, negative zero, and so is
its length. -/
theorem cosine_empty (hw : w.NonNegative) (hwne : w ≠ ∅) (hnorm : w.norm.isFinite = true)
    (hfin : epsilon.isFinite = true) (he : epsilon.NonNegative) (hne : epsilon ≠ zero) :
    cosine ∅ w epsilon = negZero := by
  have hdot : dot ∅ w = negZero := by
    rw [dot, if_pos (by simp)]
    rfl
  have hzero : norm (∅ : TermVector Binary64) = negZero := by decide
  rw [cosine, hdot, hzero]
  have hlength : negZero * w.norm + epsilon = epsilon := by
    rw [negZero_mul hnorm (nonNegative_norm hw hwne), negZero_add]
  exact (congrArg (negZero / ·) hlength).trans (negZero_div hfin he hne)

end TermVector

/-! ## Hits in order -/

namespace Hit

variable {a b : Hit Binary64}

/-- The authority that a hit is placed by. -/
def standing (h : Hit Binary64) : Binary64 := h.authority.getD Scalar.zero

theorem before_iff : Before a b ↔ b.score.orderKey < a.score.orderKey ∨ (a.score = b.score ∧
    (b.standing.orderKey < a.standing.orderKey ∨ (a.standing = b.standing ∧ a.doc < b.doc))) := by
  have hkey : ∀ {x y : Binary64}, compare x y = .lt ↔ x.orderKey < y.orderKey := fun {x y} =>
    (compare_lt_iff_lt : compare x.orderKey y.orderKey = .lt ↔ x.orderKey < y.orderKey)
  have hkeys : ∀ {x y : Binary64}, compare x y = .eq ↔ y = x := fun {x y} =>
    ⟨fun h => (eq_of_orderKey_eq (Std.compare_eq_iff_eq.1 h)).symm,
      fun h => h ▸ Std.ReflOrd.compare_self⟩
  unfold Before order
  rw [Ordering.then_eq_lt, Ordering.then_eq_lt, hkey, hkey, hkeys, hkeys, Std.compare_eq_lt]
  rfl

/-- Best first by score, then by authority, then by document, as numbers compare. -/
def Ranked (a b : Hit Binary64) : Prop :=
  b.score.toFloat ≤ a.score.toFloat ∧ ((a.score == b.score) = true →
    b.standing.toFloat ≤ a.standing.toFloat ∧ ((a.standing == b.standing) = true → a.doc < b.doc))

instance : DecidableRel Ranked := fun a b =>
  inferInstanceAs (Decidable (b.score.toFloat ≤ a.score.toFloat ∧ ((a.score == b.score) = true →
    b.standing.toFloat ≤ a.standing.toFloat ∧ ((a.standing == b.standing) = true → a.doc < b.doc))))

theorem le_of_orderKey_lt {x y : Binary64} (hx : x.isNaN = false) (hy : y.isNaN = false)
    (h : y.orderKey < x.orderKey) :
    y.toFloat ≤ x.toFloat ∧ ((x == y) = true → x = zero ∧ y = negZero) := by
  rw [toFloat_le_iff hy hx, beq_iff hx hy]
  rcases place_lt_or_zeros h with hlt | ⟨rfl, rfl⟩
  · exact ⟨by omega, fun heq => by omega⟩
  · exact ⟨by decide, fun _ => ⟨rfl, rfl⟩⟩

theorem Before.score_le (h : Before a b) (ha : a.score.isNaN = false) (hb : b.score.isNaN = false) :
    b.score.toFloat ≤ a.score.toFloat := by
  rcases before_iff.1 h with hs | ⟨hs, -⟩
  · exact (le_of_orderKey_lt ha hb hs).1
  · rw [hs, toFloat_le_iff hb hb]

theorem Before.ranked (h : Before a b) (ha : a.score.isNaN = false) (hb : b.score.isNaN = false)
    (ha' : a.standing.isNaN = false) (hb' : b.standing.isNaN = false) : Ranked a b ∨
      (a.score = zero ∧ b.score = negZero) ∨
      (a.score = b.score ∧ a.standing = zero ∧ b.standing = negZero) := by
  have hself : ∀ {x : Binary64}, x.isNaN = false → x.toFloat ≤ x.toFloat := fun hx =>
    (toFloat_le_iff hx hx).2 (Int.le_refl _)
  rcases before_iff.1 h with hs | ⟨hs, h⟩
  · obtain ⟨hle, hzeros⟩ := le_of_orderKey_lt ha hb hs
    by_cases heq : (a.score == b.score) = true
    · exact .inr (.inl (hzeros heq))
    · exact .inl ⟨hle, fun he => absurd he heq⟩
  · have hle : b.score.toFloat ≤ a.score.toFloat := hs ▸ hself ha
    rcases h with hs' | ⟨hs', hd⟩
    · obtain ⟨hle', hzeros⟩ := le_of_orderKey_lt ha' hb' hs'
      by_cases heq : (a.standing == b.standing) = true
      · exact .inr (.inr ⟨hs, hzeros heq⟩)
      · exact .inl ⟨hle, fun _ => ⟨hle', fun he => absurd he heq⟩⟩
    · exact .inl ⟨hle, fun _ => ⟨hs' ▸ hself ha', fun _ => hd⟩⟩

end Hit

/-! ## The hits of a search -/

namespace Engine

/-- A query with terms where no weight is negative, its length is finite, and the cosine is kept
away from zero. -/
structure Plain (e : Engine Binary64) (s : Space) (query : String) : Prop where
  documents : ∀ d ∈ (e.model.space s).vectors.toList, d.2.NonNegative
  weights : (e.model.vectorize s query).NonNegative
  terms : e.model.vectorize s query ≠ ∅
  length : (e.model.vectorize s query).norm.isFinite = true
  epsilon : e.config.epsilon.isFinite = true ∧ e.config.epsilon.NonNegative ∧
    e.config.epsilon ≠ zero

variable {e : Engine Binary64} {s : Space} {query : String}

theorem score_of_mem_search {k : Nat} {h : Hit Binary64} (hh : h ∈ e.search s query k) :
    ∃ v, (e.model.space s).vectors[h.doc]? = some v ∧
      h.score = TermVector.cosine v (e.model.vectorize s query) e.config.epsilon := by
  rw [search_eq_take] at hh
  obtain ⟨v, hv, hs, -⟩ := (mem_ranking e s query h).1 (List.mem_of_mem_take hh)
  exact ⟨v, hv, hs⟩

/-- Negative zero is the score of the documents without terms. -/
theorem Plain.score_eq_negZero_iff (hp : e.Plain s query) {k : Nat} {h : Hit Binary64}
    (hh : h ∈ e.search s query k) :
    h.score = negZero ↔ (e.model.space s).vectors[h.doc]? = some ∅ := by
  obtain ⟨hfin, hpos, hne⟩ := hp.epsilon
  obtain ⟨v, hv, hs⟩ := score_of_mem_search hh
  rw [hs, hv, Option.some.injEq]
  constructor
  · intro hzero
    by_contra hvne
    have hdocument := hp.documents _ (Std.ExtTreeMap.mem_toList_iff_getElem?_eq_some.2 hv)
    exact (TermVector.nonNegative_cosine hdocument hp.weights hvne hp.terms hpos).ne_negZero hzero
  · rintro rfl
    exact TermVector.cosine_empty hp.weights hp.terms hp.length hfin hpos hne

/-- Of two hits the one before has the greater or an equal score. Hits of equal scores are placed by
authority and then by document as these compare, unless a positive zero comes before a negative one:
of the scores, or of the authorities of hits with the same score. Where no weight is negative, a
score is negative zero exactly for a document without terms; so the order by authority fails only
between a document with terms and one without, which comes after it. -/
theorem search_ties (e : Engine Binary64) (s : Space) (query : String) (k : Nat) :
    (e.search s query k).Pairwise (fun a b => a.score.isNaN = false → b.score.isNaN = false →
      b.score.toFloat ≤ a.score.toFloat ∧
      (a.standing.isNaN = false → b.standing.isNaN = false → Hit.Ranked a b ∨
        (a.score = zero ∧ b.score = negZero) ∨
        (a.score = b.score ∧ a.standing = zero ∧ b.standing = negZero))) ∧
    (e.Plain s query → ∀ h ∈ e.search s query k,
      (h.score = negZero ↔ (e.model.space s).vectors[h.doc]? = some ∅)) := by
  refine ⟨?_, fun hp h hh => hp.score_eq_negZero_iff hh⟩
  rw [search_eq_take]
  refine ((pairwise_ranking e s query).sublist (List.take_sublist k _)).imp fun h ha hb => ?_
  exact ⟨h.score_le ha hb, fun ha' hb' => h.ranked ha hb ha' hb'⟩

/-- Two documents that match nothing, one without terms and one with a term of no weight. -/
def unweighted : Engine Binary64 where
  model :=
    { tokens := TermSpace.ofDocuments
        [(1, []), (2, [WeightRecord.mk "cat" (Binary64.ofNat 1) (Binary64.ofNat 0)])]
      lemmas := .empty
      table := ∅ }
  authority := some (Authority.ofScores [(1, .ofNat 1), (2, .ofRatio false 1 2)])
  config := RankingConfig.standard

theorem plain_unweighted : unweighted.Plain .tokens "cat" where
  documents := by decide +kernel
  weights := by decide +kernel
  terms h := by
    have hsize : (unweighted.model.vectorize .tokens "cat").size = 1 := by decide +kernel
    rw [h] at hsize
    cases hsize
  length := by decide +kernel
  epsilon := by decide +kernel

theorem search_ties_unweighted : unweighted.Plain .tokens "cat" ∧
    ∀ h ∈ unweighted.search .tokens "cat" 10,
      (h.score = negZero ↔ (unweighted.model.space .tokens).vectors[h.doc]? = some ∅) :=
  ⟨plain_unweighted, (search_ties unweighted .tokens "cat" 10).2 plain_unweighted⟩

/-- The scores are equal as numbers, and the document of lesser authority comes first. -/
theorem search_unweighted : unweighted.search .tokens "cat" 10 =
      [⟨2, zero, some (.ofRatio false 1 2)⟩, ⟨1, negZero, some (.ofNat 1)⟩] ∧
    (zero == negZero) = true ∧
    (Binary64.ofRatio false 1 2).toFloat < (Binary64.ofNat 1).toFloat ∧
    ¬ (unweighted.search .tokens "cat" 10).Pairwise Hit.Ranked := by
  -- by document the one without terms is the first of the two, by score the last
  have hsort : unweighted.ranking .tokens "cat" =
      (unweighted.candidates .tokens "cat").reverse :=
    (Hit.eq_sort (nodup_candidates ..) (List.reverse_perm _) (by decide +kernel)).symm
  rw [search_eq_take, hsort]
  refine ⟨by decide +kernel, by decide +kernel, by decide +kernel, by decide +kernel⟩

end Engine

end DocSearch
