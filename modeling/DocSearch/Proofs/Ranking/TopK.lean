/-
The best `k` documents of a space. Selecting the first `k` hits and sorting them gives the first `k`
of the sorted list of all hits: the split of a list around a pivot sends the two sides of the sorted
list into two lists, and only the side that holds the last of the `k` is split again. So a search is
a cut of one complete ranking, whatever `k` is and however the documents are listed.
-/
import DocSearch.Proofs.Ranking.Order
import DocSearch.Ranking.Engine
import DocSearch.Ranking.Select

namespace DocSearch

namespace Ranking

variable {β : Type} {cmp : β → β → Ordering}

/-! ## Selecting the first elements -/

theorem mem_before {p x : β} {xs : List β} : x ∈ before cmp p xs ↔ x ∈ xs ∧ cmp x p = .lt := by
  simp [before]

theorem mem_notBefore {p x : β} {xs : List β} :
    x ∈ notBefore cmp p xs ↔ x ∈ xs ∧ ¬ cmp x p = .lt := by
  simp [notBefore]

theorem isLE_of_mem_before {p x : β} {xs : List β} (h : x ∈ before cmp p xs) :
    (cmp x p).isLE = true := by
  rw [(mem_before.1 h).2]; rfl

theorem before_append_notBefore_perm (cmp : β → β → Ordering) (p : β) (xs : List β) :
    (before cmp p xs ++ notBefore cmp p xs).Perm xs := by
  simpa [before, notBefore] using List.filter_append_perm (fun x => decide (cmp x p = .lt)) xs

/-- What `selectFirst` takes and what it leaves: as many elements as there are, up to `k`, and none
of them after one that is left. -/
structure Selected (cmp : β → β → Ordering) (k : Nat) (xs kept left : List β) : Prop where
  perm : (kept ++ left).Perm xs
  length : kept.length = min k xs.length
  le : ∀ a ∈ kept, ∀ b ∈ left, (cmp a b).isLE = true

section Select

variable [Std.TransCmp cmp]

theorem isLE_of_mem_notBefore {p x : β} {xs : List β} (h : x ∈ notBefore cmp p xs) :
    (cmp p x).isLE = true := by
  have hx := (mem_notBefore.1 h).2
  have hswap : cmp p x = (cmp x p).swap := Std.OrientedCmp.eq_swap
  rw [hswap]
  cases ho : cmp x p with
  | lt => exact absurd ho hx
  | eq => rfl
  | gt => rfl

/-- All of the first `k` come before the pivot. -/
theorem selected_before {k : Nat} {p : β} {rest kept left : List β}
    (h : Selected cmp (k + 1) (before cmp p rest) kept left)
    (hk : k < (before cmp p rest).length) :
    Selected cmp (k + 1) (p :: rest) kept (left ++ p :: notBefore cmp p rest) := by
  have hsplit := before_append_notBefore_perm cmp p rest
  have hmem : ∀ a ∈ kept, a ∈ before cmp p rest := fun a ha =>
    h.perm.mem_iff.1 (List.mem_append_left _ ha)
  constructor
  · rw [← List.append_assoc]
    refine List.perm_middle.trans (.cons p ?_)
    exact (h.perm.append_right _).trans hsplit
  · have := h.length
    have := hsplit.length_eq
    simp only [List.length_append, List.length_cons] at *
    omega
  · intro a ha b hb
    have hap := isLE_of_mem_before (hmem a ha)
    -- what is left: from the same side of the pivot, the pivot itself, or from the other side
    rcases List.mem_append.1 hb with hb | hb
    · exact h.le a ha b hb
    · rcases List.mem_cons.1 hb with rfl | hb
      · exact hap
      · exact Std.TransCmp.isLE_trans hap (isLE_of_mem_notBefore hb)

/-- The pivot and all that comes before it are among the first `k`. -/
theorem selected_notBefore {k : Nat} {p : β} {rest kept left : List β}
    (h : Selected cmp (k - (before cmp p rest).length) (notBefore cmp p rest) kept left)
    (hk : ¬ k < (before cmp p rest).length) :
    Selected cmp (k + 1) (p :: rest) (before cmp p rest ++ p :: kept) left := by
  have hsplit := before_append_notBefore_perm cmp p rest
  have hmem : ∀ x, x ∈ kept ++ left → x ∈ notBefore cmp p rest := fun x hx => h.perm.mem_iff.1 hx
  constructor
  · rw [List.append_assoc, List.cons_append]
    refine List.perm_middle.trans (.cons p ?_)
    exact (h.perm.append_left _).trans hsplit
  · have := h.length
    have := hsplit.length_eq
    simp only [List.length_append, List.length_cons] at *
    omega
  · intro a ha b hb
    have hpb := isLE_of_mem_notBefore (hmem b (List.mem_append_right _ hb))
    rcases List.mem_append.1 ha with ha | ha
    · exact Std.TransCmp.isLE_trans (isLE_of_mem_before ha) hpb
    · rcases List.mem_cons.1 ha with rfl | ha
      · exact hpb
      · exact h.le a ha b hb

variable (cmp) in
theorem selectFirst_selected (k : Nat) (xs : List β) :
    ∃ left, Selected cmp k xs (selectFirst cmp k xs) left := by
  induction k, xs using selectFirst.induct cmp with
  | case1 xs => exact ⟨xs, by simp [selectFirst], by simp [selectFirst], by simp [selectFirst]⟩
  | case2 k hk => exact ⟨[], by simp [selectFirst], by simp [selectFirst], by simp [selectFirst]⟩
  | case3 k p rest low hlow ih =>
    obtain ⟨left, h⟩ := ih
    refine ⟨left ++ p :: notBefore cmp p rest, ?_⟩
    rw [selectFirst, if_pos hlow]
    exact selected_before h hlow
  | case4 k p rest low hlow ih =>
    obtain ⟨left, h⟩ := ih
    refine ⟨left, ?_⟩
    rw [selectFirst, if_neg hlow]
    exact selected_notBefore h hlow

end Select

end Ranking

namespace Engine

variable {α : Type} [RealScalar α]

/-! ## The documents of a space -/

theorem docs_candidates (e : Engine α) (s : Space) (query : String) :
    Hit.docs (e.candidates s query) = (e.model.space s).vectors.keys := by
  rw [Hit.docs, candidates, List.map_map]
  exact Std.ExtTreeMap.map_fst_toList_eq_keys

theorem nodup_candidates (e : Engine α) (s : Space) (query : String) :
    (Hit.docs (e.candidates s query)).Nodup := by
  rw [docs_candidates]; exact Std.ExtTreeMap.nodup_keys

theorem length_candidates (e : Engine α) (s : Space) (query : String) :
    (e.candidates s query).length = (e.model.space s).numDocs := by
  rw [candidates, List.length_map, Std.ExtTreeMap.length_toList]; rfl

variable [Ord α]

/-- All documents of a space, best first. -/
def ranking (e : Engine α) (s : Space) (query : String) : List (Hit α) :=
  Hit.sort (e.candidates s query)

theorem nodup_ranking (e : Engine α) (s : Space) (query : String) :
    (Hit.docs (e.ranking s query)).Nodup :=
  Hit.docs_nodup_of_perm (Hit.sort_perm _) (nodup_candidates e s query)

theorem length_ranking (e : Engine α) (s : Space) (query : String) :
    (e.ranking s query).length = (e.model.space s).numDocs := by
  rw [ranking, (Hit.sort_perm _).length_eq, length_candidates]

/-- The ranking of a space holds every document that has a vector in it, with the cosine of that
vector as its score. -/
theorem mem_ranking (e : Engine α) (s : Space) (query : String) (h : Hit α) :
    h ∈ e.ranking s query ↔ ∃ v, (e.model.space s).vectors[h.doc]? = some v ∧
      h.score = TermVector.cosine v (e.model.vectorize s query) e.config.epsilon ∧
      h.authority = e.authority.map fun a => a.scoreOf h.doc := by
  rw [ranking, (Hit.sort_perm _).mem_iff, candidates, List.mem_map]
  constructor
  · rintro ⟨⟨d, v⟩, hv, rfl⟩
    exact ⟨v, Std.ExtTreeMap.mem_toList_iff_getElem?_eq_some.1 hv, rfl, rfl⟩
  · rintro ⟨v, hv, hs, ha⟩
    refine ⟨(h.doc, v), Std.ExtTreeMap.mem_toList_iff_getElem?_eq_some.2 hv, ?_⟩
    rw [← hs, ← ha]

/-! ## Searches as cuts of the ranking -/

variable [Std.TransOrd α]

theorem pairwise_ranking (e : Engine α) (s : Space) (query : String) :
    (e.ranking s query).Pairwise Hit.Before := Hit.pairwise_sort (nodup_candidates e s query)

/-- However the documents of a space are listed and the first `k` of them selected, those are, once
sorted, the first `k` of its ranking. -/
theorem sort_eq_take_ranking (e : Engine α) (s : Space) (query : String) {k : Nat}
    {hits kept left : List (Hit α)} (hp : hits.Perm (e.candidates s query))
    (h : Ranking.Selected Hit.order k hits kept left) :
    Hit.sort kept = (e.ranking s query).take k := by
  rw [Hit.sort_eq_take (nodup_candidates e s query) (h.perm.trans hp) h.le, h.length, hp.length_eq,
    ← (Hit.sort_perm (e.candidates s query)).length_eq, ← List.take_eq_take_min]
  rfl

theorem search_eq_take (e : Engine α) (s : Space) (query : String) (k : Nat) :
    e.search s query k = (e.ranking s query).take k := by
  unfold search
  simp only
  split
  · obtain ⟨left, h⟩ := Ranking.selectFirst_selected Hit.order k (e.candidates s query)
    exact sort_eq_take_ranking e s query (.refl _) h
  · rename_i hk
    refine (List.take_of_length_le ?_).symm
    rw [(Hit.sort_perm _).length_eq]
    omega

/-- Top-k search is exact. For every `k` the answer is the first `k` of the ranking of all documents
of the space, which holds each of them once and in strict order; so answers for smaller `k` are
prefixes of those for greater ones, every document left out comes after every one returned, and
neither the order in which the documents are listed nor the way in which the first `k` are selected
makes a difference. -/
theorem search_exact (e : Engine Binary64) (s : Space) (query : String) :
    (∀ h, h ∈ e.ranking s query ↔ ∃ v, (e.model.space s).vectors[h.doc]? = some v ∧
      h.score = TermVector.cosine v (e.model.vectorize s query) e.config.epsilon ∧
      h.authority = e.authority.map fun a => a.scoreOf h.doc) ∧
    (Hit.docs (e.ranking s query)).Nodup ∧ (e.ranking s query).Pairwise Hit.Before ∧
    (∀ k, e.search s query k = (e.ranking s query).take k) ∧
    (∀ k, (e.search s query k).length = min k (e.model.space s).numDocs) ∧
    (∀ k k', k ≤ k' → e.search s query k <+: e.search s query k') ∧
    (∀ k, (Hit.docs (e.search s query k)).Nodup ∧ (e.search s query k).Pairwise Hit.Before) ∧
    (∀ k, ∀ a ∈ e.search s query k, ∀ b ∈ e.ranking s query, b ∉ e.search s query k →
      Hit.Before a b) ∧
    ∀ k hits kept left, hits.Perm (e.candidates s query) →
      Ranking.Selected Hit.order k hits kept left → Hit.sort kept = e.search s query k := by
  have hcut := search_eq_take e s query
  have hnodup := nodup_ranking e s query
  have hpair := pairwise_ranking e s query
  refine ⟨mem_ranking e s query, hnodup, hpair, hcut, fun k => ?_, fun k k' hk => ?_,
    fun k => ⟨?_, ?_⟩, fun k a ha b hb hnb => ?_, fun k hits kept left hp h => ?_⟩
  · rw [hcut, List.length_take, length_ranking]
  · rw [hcut, hcut]; exact List.take_prefix_take_left hk
  · rw [hcut]; exact Hit.nodup_docs_take k hnodup
  · rw [hcut]; exact hpair.sublist (List.take_sublist k _)
  · rw [hcut] at ha hnb
    exact Hit.before_of_notMem_take hpair ha hb hnb
  · rw [hcut]; exact sort_eq_take_ranking e s query hp h

end Engine

end DocSearch
