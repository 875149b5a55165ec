/-
Term spaces known by their look-ups. Of the records of a document the last one for a term is its
weight; of all documents, taken in ascending order, the first record for a term has its frequency. So
the space depends on nothing but which documents there are.
-/
import DocSearch.Proofs.Weights.Records

namespace DocSearch

variable {α : Type}

/-- A term weighs what its last record says. -/
theorem TermVector.getElem?_ofRecords (rs : List (WeightRecord α)) (term : String) :
    (ofRecords rs)[term]? = (rs.reverse.find? (·.term = term)).map (·.tfidf) := by
  unfold ofRecords ofEntries
  rw [List.foldl_map, getElem?_foldl_insert (fun r : WeightRecord α => r.term) (fun r => r.tfidf),
    Std.ExtTreeMap.getElem?_empty, Option.or_none]

namespace TermSpace

variable {ds ds' : List (DocId × List (WeightRecord α))} {doc : DocId} {term : String}

/-! ## Vectors -/

theorem vectors_foldl_add : ∀ (ds : List (DocId × List (WeightRecord α))) (s : TermSpace α),
    (ds.foldl (fun s d => s.add d.1 d.2) s).vectors =
      ds.foldl (fun m d => m.insert d.1 (TermVector.ofRecords d.2)) s.vectors
  | [], _ => rfl
  | d :: ds, s => vectors_foldl_add ds (s.add d.1 d.2)

/-- A document that is always added with the same records has their vector. -/
theorem getElem?_vectors_of_mem {rs : List (WeightRecord α)} (h : (doc, rs) ∈ ds)
    (hs : ∀ d ∈ ds, d.1 = doc → d.2 = rs) :
    (ofDocuments ds).vectors[doc]? = some (TermVector.ofRecords rs) := by
  unfold ofDocuments
  rw [vectors_foldl_add]
  exact getElem?_foldl_insert_of_mem Prod.fst (fun d => TermVector.ofRecords d.2) h
    fun d hd hdoc => congrArg TermVector.ofRecords (hs d hd hdoc)

theorem exists_getElem?_vectors_iff :
    (∃ v, (ofDocuments ds).vectors[doc]? = some v) ↔ ∃ d ∈ ds, d.1 = doc := by
  unfold ofDocuments
  rw [vectors_foldl_add, exists_getElem?_foldl_insert_iff Prod.fst]
  refine or_iff_left ?_
  rintro ⟨v, hv⟩
  rw [empty, Std.ExtTreeMap.getElem?_empty] at hv
  cases hv

/-! ## Frequencies -/

theorem idf_foldl_add : ∀ (ds : List (DocId × List (WeightRecord α))) (s : TermSpace α),
    (ds.foldl (fun s d => s.add d.1 d.2) s).idf =
      (ds.flatMap (·.2)).foldl (fun m r => m.insertIfNew r.term r.idf) s.idf
  | [], _ => rfl
  | d :: ds, s => by
    rw [List.foldl_cons, idf_foldl_add ds, List.flatMap_cons, List.foldl_append]
    rfl

/-- The frequency of a term is that of its first record. -/
theorem getElem?_idf : (ofDocuments ds).idf[term]? =
    (ds.findSome? fun d => d.2.find? (·.term = term)).map (·.idf) := by
  unfold ofDocuments
  rw [idf_foldl_add, getElem?_foldl_insertIfNew (fun r : WeightRecord α => r.term) (fun r => r.idf),
    List.find?_flatMap, empty, Std.ExtTreeMap.getElem?_empty, Option.none_or]

/-! ## Documents in ascending order -/

/-- Documents in ascending order, each with one list of records. -/
structure Ascending (ds : List (DocId × List (WeightRecord α))) : Prop where
  pairwise : ds.Pairwise fun d d' => d.1 ≤ d'.1
  unique : ∀ d ∈ ds, ∀ d' ∈ ds, d.1 = d'.1 → d = d'

namespace Ascending

/-- Whatever is looked for in the documents is found in the lowest that has it. -/
theorem findSome?_eq_some_iff (h : Ascending ds) {γ : Type} {b : γ}
    {f : DocId × List (WeightRecord α) → Option γ} : ds.findSome? f = some b ↔
      ∃ d ∈ ds, f d = some b ∧ ∀ d' ∈ ds, f d' ≠ none → d.1 ≤ d'.1 := by
  have hfirst : ∀ {b}, ds.findSome? f = some b →
      ∃ d ∈ ds, f d = some b ∧ ∀ d' ∈ ds, f d' ≠ none → d.1 ≤ d'.1 := by
    intro b hb
    obtain ⟨before, d, after, rfl, hd, hnone⟩ := List.findSome?_eq_some_iff.1 hb
    refine ⟨d, by simp, hd, fun d' hd' hf => ?_⟩
    obtain ⟨-, hafter, -⟩ := List.pairwise_append.1 h.pairwise
    rcases List.mem_append.1 hd' with hd' | hd'
    · exact absurd (hnone d' hd') hf
    · rcases List.mem_cons.1 hd' with rfl | hd'
      · exact UInt32.le_refl _
      · exact List.rel_of_pairwise_cons hafter hd'
  refine ⟨hfirst, fun ⟨d, hd, hb, hle⟩ => ?_⟩
  cases hfound : ds.findSome? f with
  | none => rw [List.findSome?_eq_none_iff.1 hfound d hd] at hb; cases hb
  | some b' =>
    -- the document that is found is as low as `d`, so it is `d`
    obtain ⟨d', hd', hb', hle'⟩ := hfirst hfound
    have hsame : d'.1 = d.1 :=
      UInt32.le_antisymm (hle' d hd (by simp [hb])) (hle d' hd' (by simp [hb']))
    rw [h.unique d' hd' d hd hsame, hb] at hb'
    exact hb'.symm

theorem getElem?_vectors (h : Ascending ds) {v : TermVector α} :
    (ofDocuments ds).vectors[doc]? = some v ↔ ∃ d ∈ ds, d.1 = doc ∧ TermVector.ofRecords d.2 = v := by
  have hmem : ∀ d ∈ ds, (ofDocuments ds).vectors[d.1]? = some (TermVector.ofRecords d.2) := fun d hd =>
    getElem?_vectors_of_mem hd fun d' hd' hdoc => by rw [h.unique d' hd' d hd hdoc]
  constructor
  · intro hv
    obtain ⟨d, hd, rfl⟩ := exists_getElem?_vectors_iff.1 ⟨v, hv⟩
    exact ⟨d, hd, rfl, Option.some.inj ((hmem d hd).symm.trans hv)⟩
  · rintro ⟨d, hd, rfl, rfl⟩
    exact hmem d hd

/-- The frequency of a term is that of its first record in the lowest document that has one. -/
theorem getElem?_idf (h : Ascending ds) {x : α} : (ofDocuments ds).idf[term]? = some x ↔
    ∃ d ∈ ds, (∃ r, d.2.find? (·.term = term) = some r ∧ r.idf = x) ∧
      ∀ d' ∈ ds, (∃ r ∈ d'.2, r.term = term) → d.1 ≤ d'.1 := by
  have hsome : ∀ d : DocId × List (WeightRecord α),
      d.2.find? (·.term = term) ≠ none ↔ ∃ r ∈ d.2, r.term = term := fun d => by simp
  rw [TermSpace.getElem?_idf, Option.map_eq_some_iff]
  simp only [h.findSome?_eq_some_iff, hsome]
  constructor
  · rintro ⟨r, ⟨d, hd, hr, hle⟩, hx⟩; exact ⟨d, hd, ⟨r, hr, hx⟩, hle⟩
  · rintro ⟨d, hd, ⟨r, hr, hx⟩, hle⟩; exact ⟨r, ⟨d, hd, hr, hle⟩, hx⟩

/-- The space is known from which documents there are. -/
theorem ofDocuments_congr (h : Ascending ds) (h' : Ascending ds') (hmem : ∀ d, d ∈ ds ↔ d ∈ ds') :
    ofDocuments ds = ofDocuments ds' := by
  have hvectors : (ofDocuments ds).vectors = (ofDocuments ds').vectors :=
    Std.ExtTreeMap.ext_getElem? fun {doc} => Option.ext fun v => by
      rw [h.getElem?_vectors, h'.getElem?_vectors]
      simp only [hmem]
  have hidf : (ofDocuments ds).idf = (ofDocuments ds').idf :=
    Std.ExtTreeMap.ext_getElem? fun {term} => Option.ext fun x => by
      rw [h.getElem?_idf, h'.getElem?_idf]
      simp only [hmem]
  cases hds : ofDocuments ds
  cases hds' : ofDocuments ds'
  rw [hds, hds'] at hvectors hidf
  rw [TermSpace.mk.injEq]
  exact ⟨hvectors, hidf⟩

end Ascending

end TermSpace

end DocSearch
