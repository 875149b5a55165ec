/-
Fusion as a union. A fused list is known by the fused hits of the documents, and these by the hits
that the two lists have: so every document of either list is in it once, and neither the order of
the lists matters nor, in exact arithmetic, which of them comes first. A fused search takes at least
as many hits from either space as are asked for; cutting the spaces short therefore never makes the
union smaller than that.
-/
import DocSearch.Proofs.Ranking.Fusion
import DocSearch.Proofs.Rational

namespace DocSearch

namespace Ranking

variable {α : Type} {first second first' second' : List (Hit α)}

/-! ## The hit of a document -/

theorem hitOf_eq_none_iff {hs : List (Hit α)} {d : DocId} : hitOf hs d = none ↔ d ∉ Hit.docs hs := by
  refine ⟨fun hnone hd => ?_, hitOf_eq_none⟩
  obtain ⟨h, hh, rfl⟩ := List.mem_map.1 hd
  exact List.find?_eq_none.1 hnone h hh (by simp)

/-- Where no document is repeated, its hit is the one in the list. -/
theorem hitOf_eq_some_iff {hs : List (Hit α)} (hn : (Hit.docs hs).Nodup) {d : DocId} {h : Hit α} :
    hitOf hs d = some h ↔ h ∈ hs ∧ h.doc = d := by
  constructor
  · intro hh
    exact ⟨List.mem_of_find?_eq_some hh, doc_of_hitOf hh⟩
  · rintro ⟨hh, rfl⟩
    cases hg : hitOf hs h.doc with
    | none => exact absurd (List.mem_map_of_mem hh) (hitOf_eq_none_iff.1 hg)
    | some g =>
      rw [List.inj_on_of_nodup_map hn (List.mem_of_find?_eq_some hg) hh (doc_of_hitOf hg)]

theorem hitOf_perm {hs hs' : List (Hit α)} (hn : (Hit.docs hs).Nodup) (hp : hs'.Perm hs) (d : DocId) :
    hitOf hs' d = hitOf hs d := by
  ext h
  rw [hitOf_eq_some_iff hn, hitOf_eq_some_iff (Hit.docs_nodup_of_perm hp hn), hp.mem_iff]

variable [Scalar α]

theorem fuseHits_eq_none_iff {weight : α} {t l : Option (Hit α)} :
    fuseHits weight t l = none ↔ t = none ∧ l = none := by
  rcases t with _ | t <;> rcases l with _ | l <;> simp [fuseHits]

theorem fuseHits_eq_some_iff {weight : α} {t l : Option (Hit α)} {h : Hit α} :
    fuseHits weight t l = some h ↔
      (∃ a, t = some a ∧ ∃ b, l = some b ∧
        h = { a with score := weight * a.score + (Scalar.one - weight) * b.score }) ∨
      (∃ a, t = some a ∧ l = none ∧ h = { a with score := weight * a.score }) ∨
      (∃ b, l = some b ∧ t = none ∧ h = { b with score := (Scalar.one - weight) * b.score }) := by
  rcases t with _ | t <;> rcases l with _ | l <;> simp [fuseHits, eq_comm]

/-- The two sides of a fused hit change places with their weights, where addition commutes and taking
a weight from one twice gives it back. -/
theorem fuseHits_swap (hadd : ∀ a b : α, a + b = b + a) {weight : α}
    (hweight : Scalar.one - (Scalar.one - weight) = weight) {t l : Option (Hit α)}
    (hsame : ∀ a ∈ t, ∀ b ∈ l, a.doc = b.doc ∧ a.authority = b.authority) :
    fuseHits (Scalar.one - weight) l t = fuseHits weight t l := by
  rcases t with _ | t <;> rcases l with _ | l
  · rfl
  · rfl
  · simp only [fuseHits, hweight]
  · obtain ⟨hdoc, hauthority⟩ := hsame t rfl l rfl
    simp only [fuseHits, hweight, hdoc, hauthority, hadd (weight * t.score)]

/-! ## Fused lists by their fused hits -/

variable [Ord α] (hf : (Hit.docs first).Nodup) (hs : (Hit.docs second).Nodup)
include hf hs

/-- Lists that give every document the same fused hit are fused to the same list. -/
theorem fuse_congr (hf' : (Hit.docs first').Nodup) (hs' : (Hit.docs second').Nodup) {weight weight' : α}
    (h : ∀ d, fuseHits weight (hitOf first d) (hitOf second d) =
      fuseHits weight' (hitOf first' d) (hitOf second' d)) :
    fuse first second weight = fuse first' second' weight' := by
  have hmerged : merged first second weight = merged first' second' weight' := by
    refine Std.ExtTreeMap.ext_getElem? fun {d} => ?_
    rw [getElem?_merged hf hs, getElem?_merged hf' hs', h]
  exact congrArg (fun m : Std.ExtTreeMap DocId (Hit α) => Hit.sort m.values) hmerged

theorem fuse_of_perm (weight : α) (hpf : first'.Perm first) (hps : second'.Perm second) :
    fuse first' second' weight = fuse first second weight := by
  refine fuse_congr (Hit.docs_nodup_of_perm hpf hf) (Hit.docs_nodup_of_perm hps hs) hf hs fun d => ?_
  rw [hitOf_perm hf hpf, hitOf_perm hs hps]

/-- Swapping the lists together with their weights changes nothing in exact arithmetic, where a
document has the same authority in both. -/
theorem fuse_swap (hadd : ∀ a b : α, a + b = b + a) {weight : α}
    (hweight : Scalar.one - (Scalar.one - weight) = weight)
    (hauthority : ∀ a ∈ first, ∀ b ∈ second, a.doc = b.doc → a.authority = b.authority) :
    fuse second first (Scalar.one - weight) = fuse first second weight := by
  refine fuse_congr hs hf hf hs fun d => fuseHits_swap hadd hweight fun a ha b hb => ?_
  obtain ⟨hmema, rfl⟩ := (hitOf_eq_some_iff hf).1 ha
  obtain ⟨hmemb, hdoc⟩ := (hitOf_eq_some_iff hs).1 hb
  exact ⟨hdoc.symm, hauthority a hmema b hmemb hdoc.symm⟩

/-- A fused hit is made of the hits of a document in both lists, or of its hit in the only one that
has it. -/
theorem mem_fuse_iff (weight : α) (h : Hit α) : h ∈ fuse first second weight ↔
    (∃ a ∈ first, ∃ b ∈ second, a.doc = b.doc ∧
      h = { a with score := weight * a.score + (Scalar.one - weight) * b.score }) ∨
    (∃ a ∈ first, a.doc ∉ Hit.docs second ∧ h = { a with score := weight * a.score }) ∨
    (∃ b ∈ second, b.doc ∉ Hit.docs first ∧
      h = { b with score := (Scalar.one - weight) * b.score }) := by
  rw [mem_fuse hf hs, fuseHits_eq_some_iff]
  refine or_congr ⟨?_, ?_⟩ (or_congr ⟨?_, ?_⟩ ⟨?_, ?_⟩)
  · rintro ⟨a, ha, b, hb, heq⟩
    obtain ⟨ha, hda⟩ := (hitOf_eq_some_iff hf).1 ha
    obtain ⟨hb, hdb⟩ := (hitOf_eq_some_iff hs).1 hb
    exact ⟨a, ha, b, hb, hda.trans hdb.symm, heq⟩
  · rintro ⟨a, ha, b, hb, hdoc, rfl⟩
    exact ⟨a, (hitOf_eq_some_iff hf).2 ⟨ha, rfl⟩, b, (hitOf_eq_some_iff hs).2 ⟨hb, hdoc.symm⟩, rfl⟩
  · rintro ⟨a, ha, hnone, heq⟩
    obtain ⟨ha, hda⟩ := (hitOf_eq_some_iff hf).1 ha
    exact ⟨a, ha, hda ▸ hitOf_eq_none_iff.1 hnone, heq⟩
  · rintro ⟨a, ha, hnot, rfl⟩
    exact ⟨a, (hitOf_eq_some_iff hf).2 ⟨ha, rfl⟩, hitOf_eq_none hnot, rfl⟩
  · rintro ⟨b, hb, hnone, heq⟩
    obtain ⟨hb, hdb⟩ := (hitOf_eq_some_iff hs).1 hb
    exact ⟨b, hb, hdb ▸ hitOf_eq_none_iff.1 hnone, heq⟩
  · rintro ⟨b, hb, hnot, rfl⟩
    exact ⟨b, (hitOf_eq_some_iff hs).2 ⟨hb, rfl⟩, hitOf_eq_none hnot, rfl⟩

theorem mem_docs_fuse (weight : α) (d : DocId) :
    d ∈ Hit.docs (fuse first second weight) ↔ d ∈ Hit.docs first ∨ d ∈ Hit.docs second := by
  have hdocs : d ∈ Hit.docs (fuse first second weight) ↔ d ∈ merged first second weight := by
    rw [Hit.docs, ((fuse_perm first second weight).map _).mem_iff, ← Hit.docs,
      docs_values_merged hf hs, Std.ExtTreeMap.mem_keys]
  rw [hdocs, Std.ExtTreeMap.mem_iff_isSome_getElem?, getElem?_merged hf hs,
    Option.isSome_iff_ne_none, ne_eq, fuseHits_eq_none_iff, hitOf_eq_none_iff, hitOf_eq_none_iff,
    not_and_or, not_not, not_not]

theorem toFinset_docs_fuse (weight : α) : (Hit.docs (fuse first second weight)).toFinset =
    (Hit.docs first).toFinset ∪ (Hit.docs second).toFinset := by
  ext d
  rw [Finset.mem_union, List.mem_toFinset, List.mem_toFinset, List.mem_toFinset, mem_docs_fuse hf hs]

/-- A fused list is as long as its lists have documents together. -/
theorem length_fuse (weight : α) : (fuse first second weight).length =
    ((Hit.docs first).toFinset ∪ (Hit.docs second).toFinset).card := by
  rw [← toFinset_docs_fuse hf hs weight, List.toFinset_card_of_nodup (nodup_fuse hf hs weight),
    Hit.docs, List.length_map]

/-- Fusing lists in which no document is repeated gives every document of either list once and in
strict order, with the weighted sum of its scores, where a list that does not have it does not count,
and with its authority in the first list, or in the second if only that one has it. The order in which
the lists are given makes no difference, nor does swapping them together with their weights, provided
that addition commutes and a weight taken from one twice is the weight again, as in exact arithmetic,
and that a document has the same authority in both. -/
theorem fuse_isUnion [Std.TransOrd α] (weight : α) :
    (∀ d, d ∈ Hit.docs (fuse first second weight) ↔ d ∈ Hit.docs first ∨ d ∈ Hit.docs second) ∧
    (Hit.docs (fuse first second weight)).Nodup ∧ (fuse first second weight).Pairwise Hit.Before ∧
    (∀ h, h ∈ fuse first second weight ↔
      (∃ a ∈ first, ∃ b ∈ second, a.doc = b.doc ∧
        h = { a with score := weight * a.score + (Scalar.one - weight) * b.score }) ∨
      (∃ a ∈ first, a.doc ∉ Hit.docs second ∧ h = { a with score := weight * a.score }) ∨
      (∃ b ∈ second, b.doc ∉ Hit.docs first ∧
        h = { b with score := (Scalar.one - weight) * b.score })) ∧
    (∀ first' second', first'.Perm first → second'.Perm second →
      fuse first' second' weight = fuse first second weight) ∧
    ((∀ a b : α, a + b = b + a) → Scalar.one - (Scalar.one - weight) = weight →
      (∀ a ∈ first, ∀ b ∈ second, a.doc = b.doc → a.authority = b.authority) →
      fuse second first (Scalar.one - weight) = fuse first second weight) :=
  ⟨mem_docs_fuse hf hs weight, nodup_fuse hf hs weight, pairwise_fuse hf hs weight,
    mem_fuse_iff hf hs weight, fun _ _ => fuse_of_perm hf hs weight,
    fun hadd hweight => fuse_swap hf hs hadd hweight⟩

omit hf hs [Scalar α] [Ord α]

/-- Two lists over the rational numbers that share the document 8. -/
def sharedFirst : List (Hit ℚ) := [⟨7, 4 / 5, none⟩, ⟨8, 1 / 5, some 2⟩]

@[inherit_doc sharedFirst]
def sharedSecond : List (Hit ℚ) := [⟨9, 1 / 10, some 1⟩, ⟨8, 2 / 5, some 2⟩]

theorem fuse_isUnion_shared :
    (Hit.docs sharedFirst).Nodup ∧ (Hit.docs sharedSecond).Nodup ∧
    (∀ d, d ∈ Hit.docs (fuse sharedFirst sharedSecond (1 / 3)) ↔
      d ∈ Hit.docs sharedFirst ∨ d ∈ Hit.docs sharedSecond) ∧
    (fuse sharedFirst sharedSecond (1 / 3)).Pairwise Hit.Before ∧
    ⟨8, 1 / 3, some 2⟩ ∈ fuse sharedFirst sharedSecond (1 / 3) ∧
    fuse sharedFirst.reverse sharedSecond.reverse (1 / 3) = fuse sharedFirst sharedSecond (1 / 3) ∧
    fuse sharedSecond sharedFirst (Scalar.one - 1 / 3) = fuse sharedFirst sharedSecond (1 / 3) := by
  have hf : (Hit.docs sharedFirst).Nodup := by decide
  have hs : (Hit.docs sharedSecond).Nodup := by decide
  obtain ⟨hdocs, -, hpair, hmem, hperm, hswap⟩ := fuse_isUnion hf hs (1 / 3)
  have hshared : ∃ a ∈ sharedFirst, ∃ b ∈ sharedSecond, a.doc = b.doc ∧ (⟨8, 1 / 3, some 2⟩ : Hit ℚ) =
      { a with score := 1 / 3 * a.score + (Scalar.one - 1 / 3) * b.score } := by decide +kernel
  refine ⟨hf, hs, hdocs, hpair, (hmem _).2 (.inl hshared),
    hperm _ _ (List.reverse_perm _) (List.reverse_perm _), hswap add_comm ?_ ?_⟩
  · exact sub_sub_cancel _ _
  · decide +kernel

end Ranking

/-! ## Fused search -/

namespace Model

variable {α : Type}

/-- The documents that have a vector in a space. -/
def docsOf (m : Model α) (s : Space) : Finset DocId := (m.space s).vectors.keys.toFinset

/-- The documents that have a vector in either space. -/
def docSet (m : Model α) : Finset DocId := m.docsOf .tokens ∪ m.docsOf .lemmas

theorem mem_docSet {m : Model α} {d : DocId} : d ∈ m.docSet ↔ ∃ s, d ∈ (m.space s).vectors := by
  have hdocs : ∀ s, d ∈ m.docsOf s ↔ d ∈ (m.space s).vectors := fun s => by
    rw [docsOf, List.mem_toFinset, Std.ExtTreeMap.mem_keys]
  rw [docSet, Finset.mem_union, hdocs, hdocs]
  constructor
  · rintro (h | h)
    · exact ⟨.tokens, h⟩
    · exact ⟨.lemmas, h⟩
  · rintro ⟨s, h⟩
    cases s with
    | tokens => exact .inl h
    | lemmas => exact .inr h

theorem docsOf_subset_docSet (m : Model α) (s : Space) : m.docsOf s ⊆ m.docSet := by
  cases s with
  | tokens => exact Finset.subset_union_left
  | lemmas => exact Finset.subset_union_right

theorem card_docsOf (m : Model α) (s : Space) : (m.docsOf s).card = (m.space s).numDocs := by
  rw [docsOf, List.toFinset_card_of_nodup Std.ExtTreeMap.nodup_keys, Std.ExtTreeMap.length_keys]
  rfl

end Model

namespace Engine

variable {α : Type} [RealScalar α] [Ord α]

theorem toFinset_docs_ranking (e : Engine α) (s : Space) (query : String) :
    (Hit.docs (e.ranking s query)).toFinset = e.model.docsOf s := by
  rw [Model.docsOf, ← docs_candidates e s query]
  exact List.toFinset_eq_of_perm _ _ ((Hit.sort_perm _).map _)

/-- The documents of the shortlists of a fused search. -/
def shortlisted (e : Engine α) (query : String) (k : Nat) : Finset DocId :=
  (Hit.docs (e.shortlist .tokens query k)).toFinset ∪ (Hit.docs (e.shortlist .lemmas query k)).toFinset

theorem shortlisted_subset_docSet (e : Engine α) (query : String) (k : Nat) :
    e.shortlisted query k ⊆ e.model.docSet := by
  have hsub : ∀ s, (Hit.docs (e.shortlist s query k)).toFinset ⊆ e.model.docsOf s := fun s d hd => by
    rw [← toFinset_docs_ranking e s query, List.mem_toFinset]
    exact ((List.take_sublist _ _).map Hit.doc).subset (List.mem_toFinset.1 hd)
  exact Finset.union_subset_union (hsub .tokens) (hsub .lemmas)

/-- Up to `k` the shortlists have as many documents as the spaces: they are the whole spaces, or one
of them is cut off behind at least `k` documents. -/
theorem min_card_shortlisted (e : Engine α) (query : String) (k : Nat) :
    min k (e.shortlisted query k).card = min k e.model.docSet.card := by
  by_cases hall : ∀ s, (e.model.space s).numDocs ≤ e.fusedWidth k
  · rw [shortlisted, shortlist_eq_ranking query (hall .tokens), shortlist_eq_ranking query (hall .lemmas),
      toFinset_docs_ranking, toFinset_docs_ranking, Model.docSet]
  · obtain ⟨s, hs⟩ := not_forall.1 hall
    have hwidth : k ≤ e.fusedWidth k := Nat.le_max_right ..
    have hcut : (Hit.docs (e.shortlist s query k)).toFinset.card = e.fusedWidth k := by
      rw [List.toFinset_card_of_nodup (nodup_shortlist e s query k), Hit.docs, List.length_map,
        shortlist, List.length_take, length_ranking]
      omega
    have hshort : (Hit.docs (e.shortlist s query k)).toFinset ⊆ e.shortlisted query k := by
      cases s with
      | tokens => exact Finset.subset_union_left
      | lemmas => exact Finset.subset_union_right
    have hleft := Finset.card_le_card hshort
    have hright := Finset.card_le_card (e.model.docsOf_subset_docSet s)
    rw [Model.card_docsOf] at hright
    omega

variable [Std.TransOrd α]

theorem length_searchFused (e : Engine α) (query : String) (k : Nat) :
    (e.searchFused query k).length = min k e.model.docSet.card := by
  rw [searchFused_eq_take, List.length_take,
    Ranking.length_fuse (nodup_shortlist e .tokens query k) (nodup_shortlist e .lemmas query k),
    ← shortlisted, min_card_shortlisted]

/-- A fused search never comes up short: it returns as many hits as are asked for, or one for each
document that has a vector in either space if those are fewer, all of different documents and in
strict order. -/
theorem searchFused_full (e : Engine Binary64) (query : String) (k : Nat) :
    (∀ d, d ∈ e.model.docSet ↔ ∃ s, d ∈ (e.model.space s).vectors) ∧
    (e.searchFused query k).length = min k e.model.docSet.card ∧
    (∀ h ∈ e.searchFused query k, h.doc ∈ e.model.docSet) ∧
    (Hit.docs (e.searchFused query k)).Nodup ∧ (e.searchFused query k).Pairwise Hit.Before := by
  have htokens := nodup_shortlist e .tokens query k
  have hlemmas := nodup_shortlist e .lemmas query k
  have hcut := searchFused_eq_take e query k
  refine ⟨fun d => Model.mem_docSet, length_searchFused e query k, fun h hh => ?_, ?_, ?_⟩
  · rw [hcut] at hh
    have hdoc := List.mem_toFinset.2 (List.mem_map_of_mem (f := Hit.doc) (List.mem_of_mem_take hh))
    rw [← Hit.docs, Ranking.toFinset_docs_fuse htokens hlemmas] at hdoc
    exact shortlisted_subset_docSet e query k hdoc
  · rw [hcut]
    exact Hit.nodup_docs_take k (Ranking.nodup_fuse htokens hlemmas _)
  · rw [hcut]
    exact (Ranking.pairwise_fuse htokens hlemmas _).sublist (List.take_sublist k _)

end Engine

end DocSearch
