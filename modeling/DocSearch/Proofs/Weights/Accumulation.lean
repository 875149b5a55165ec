/-
Term spaces put together call by call. A call for a document replaces its vector and adds the
frequencies of terms that have none; so after any calls a document has the vector of its last call,
a term the frequency of its first record in all calls, those that were replaced among them, and no
call changes a frequency that is there or the vector of another document.
-/
import DocSearch.Proofs.Weights.Space

namespace DocSearch

variable {α : Type}

/-! ## The vector of one call -/

namespace TermVector

variable {records : List (WeightRecord α)} {v : TermVector α}

/-- Whether a vector has exactly the terms of some records, each with the weight of its last one. -/
def IsOfLast (records : List (WeightRecord α)) (v : TermVector α) : Prop :=
  ∀ term weight, v[term]? = some weight ↔ ∃ r, IsLast (·.term = term) records r ∧ r.tfidf = weight

theorem isOfLast_ofRecords (records : List (WeightRecord α)) : IsOfLast records (ofRecords records) := by
  intro term weight
  rw [getElem?_ofRecords, Option.map_eq_some_iff]
  simp only [find?_reverse_eq_some_iff]

theorem isOfLast_iff : IsOfLast records v ↔ ofRecords records = v := by
  constructor
  · intro h
    exact Std.ExtTreeMap.ext_getElem? fun {term} => Option.ext fun weight =>
      (isOfLast_ofRecords records term weight).trans (h term weight).symm
  · rintro rfl
    exact isOfLast_ofRecords records

end TermVector

namespace TermSpace

variable {s : TermSpace α} {calls : List (DocId × List (WeightRecord α))} {doc : DocId}
  {term : String} {x : α}

/-! ## Later calls -/

theorem getElem?_idf_add (h : s.idf[term]? = some x) (doc : DocId) (records : List (WeightRecord α)) :
    (s.add doc records).idf[term]? = some x := by
  rw [add, getElem?_foldl_insertIfNew (fun r : WeightRecord α => r.term) (fun r => r.idf), h,
    Option.some_or]

theorem getElem?_vectors_add {d : DocId} (hd : d ≠ doc) (records : List (WeightRecord α)) :
    (s.add d records).vectors[doc]? = s.vectors[doc]? := by
  rw [add, Std.ExtTreeMap.getElem?_insert, if_neg (by simpa using hd)]

theorem ofDocuments_append (calls later : List (DocId × List (WeightRecord α))) :
    ofDocuments (calls ++ later) = later.foldl (fun s d => s.add d.1 d.2) (ofDocuments calls) :=
  List.foldl_append

/-- A frequency that is there stays. -/
theorem getElem?_idf_foldl_add : ∀ {later : List (DocId × List (WeightRecord α))} {s : TermSpace α},
    s.idf[term]? = some x → (later.foldl (fun s d => s.add d.1 d.2) s).idf[term]? = some x
  | [], _, h => h
  | call :: later, s, h => by
    rw [List.foldl_cons]
    exact getElem?_idf_foldl_add (getElem?_idf_add h call.1 call.2)

/-- Calls for other documents leave a vector as it is. -/
theorem getElem?_vectors_foldl_add :
    ∀ {later : List (DocId × List (WeightRecord α))} {s : TermSpace α}, (∀ call ∈ later, call.1 ≠ doc) →
      (later.foldl (fun s d => s.add d.1 d.2) s).vectors[doc]? = s.vectors[doc]?
  | [], _, _ => rfl
  | call :: later, s, h => by
    obtain ⟨hcall, hlater⟩ := List.forall_mem_cons.1 h
    rw [List.foldl_cons, getElem?_vectors_foldl_add hlater, getElem?_vectors_add hcall]

/-! ## All calls -/

theorem getElem?_vectors_eq_some_iff {v : TermVector α} : (ofDocuments calls).vectors[doc]? = some v ↔
    ∃ records, IsLast (·.1 = doc) calls (doc, records) ∧ v.IsOfLast records := by
  unfold ofDocuments
  rw [vectors_foldl_add, empty,
    getElem?_foldl_insert_empty_eq_some_iff Prod.fst fun call => TermVector.ofRecords call.2]
  simp only [TermVector.isOfLast_iff]
  constructor
  · rintro ⟨⟨d, records⟩, hlast, hv⟩
    obtain rfl : d = doc := hlast.holds
    exact ⟨records, hlast, hv⟩
  · rintro ⟨records, hlast, hv⟩; exact ⟨(doc, records), hlast, hv⟩

theorem getElem?_idf_eq_some_iff : (ofDocuments calls).idf[term]? = some x ↔
    ∃ r, IsFirst (·.term = term) (calls.flatMap (·.2)) r ∧ r.idf = x := by
  rw [getElem?_idf, ← List.find?_flatMap, Option.map_eq_some_iff]
  simp only [find?_eq_some_iff_isFirst]

theorem mem_vectors_iff : doc ∈ (ofDocuments calls).vectors ↔ ∃ call ∈ calls, call.1 = doc := by
  rw [Std.ExtTreeMap.mem_iff_isSome_getElem?, Option.isSome_iff_exists, exists_getElem?_vectors_iff]

theorem mem_idf_iff :
    term ∈ (ofDocuments calls).idf ↔ ∃ call ∈ calls, ∃ r ∈ call.2, r.term = term := by
  rw [Std.ExtTreeMap.mem_iff_isSome_getElem?, getElem?_idf, Option.isSome_map, ← List.find?_flatMap,
    List.find?_isSome]
  simp only [decide_eq_true_eq, List.mem_flatMap]
  constructor
  · rintro ⟨r, ⟨call, hcall, hr⟩, hterm⟩; exact ⟨call, hcall, r, hr, hterm⟩
  · rintro ⟨call, hcall, r, hr, hterm⟩; exact ⟨r, ⟨call, hcall, hr⟩, hterm⟩

/-- There are as many vectors as documents that were called for. -/
theorem numDocs_ofDocuments (calls : List (DocId × List (WeightRecord α))) :
    (ofDocuments calls).numDocs = (calls.map (·.1)).toFinset.card := by
  -- the keys of a table are distinct, so it is enough that they are the same documents
  have hkeys : (ofDocuments calls).vectors.keys.toFinset = (calls.map (·.1)).toFinset := by
    ext doc
    rw [List.mem_toFinset, Std.ExtTreeMap.mem_keys, mem_vectors_iff, List.mem_toFinset, List.mem_map]
  rw [numDocs, ← Std.ExtTreeMap.length_keys, ← List.toFinset_card_of_nodup Std.ExtTreeMap.nodup_keys, hkeys]

/-- What a space holds once some calls were made, each for a document with its records. -/
structure Accumulates (calls : List (DocId × List (WeightRecord α))) (s : TermSpace α) : Prop where
  documents : ∀ doc, doc ∈ s.vectors ↔ ∃ call ∈ calls, call.1 = doc
  size : s.numDocs = (calls.map (·.1)).toFinset.card
  vector : ∀ doc v, s.vectors[doc]? = some v ↔
    ∃ records, IsLast (·.1 = doc) calls (doc, records) ∧ v.IsOfLast records
  terms : ∀ term, term ∈ s.idf ↔ ∃ call ∈ calls, ∃ r ∈ call.2, r.term = term
  idf : ∀ term x, s.idf[term]? = some x ↔
    ∃ r, IsFirst (·.term = term) (calls.flatMap (·.2)) r ∧ r.idf = x

/-- After any calls there is exactly one vector for each document that was called for, that of its
last call, with the last record of each term; and exactly the terms of all calls have a frequency,
that of the first record of the term in any call. Later calls change no frequency that is there, and
no vector of a document that they are not for. -/
theorem ofDocuments_accumulates (calls later : List (DocId × List (WeightRecord α))) :
    Accumulates calls (ofDocuments calls) ∧
    (∀ (term : String) (x : α), (ofDocuments calls).idf[term]? = some x →
      (ofDocuments (calls ++ later)).idf[term]? = some x) ∧
    ∀ doc : DocId, (∀ call ∈ later, call.1 ≠ doc) →
      (ofDocuments (calls ++ later)).vectors[doc]? = (ofDocuments calls).vectors[doc]? := by
  refine ⟨⟨fun _ => mem_vectors_iff, numDocs_ofDocuments calls, fun _ _ => getElem?_vectors_eq_some_iff,
    fun _ => mem_idf_iff, fun _ _ => getElem?_idf_eq_some_iff⟩, fun term x h => ?_, fun doc h => ?_⟩
  · rw [ofDocuments_append]
    exact getElem?_idf_foldl_add h
  · rw [ofDocuments_append]
    exact getElem?_vectors_foldl_add h

/-- Two calls for document 1, which both have records of `cat`. -/
def repeatedCalls : List (DocId × List (WeightRecord Binary64)) :=
  [(1, [⟨"cat", .ofNat 1, .ofNat 2⟩, ⟨"cat", .ofNat 3, .ofNat 4⟩]), (2, [⟨"dog", .ofNat 5, .ofNat 6⟩]),
    (1, [⟨"cow", .ofNat 7, .ofNat 8⟩, ⟨"cow", .ofNat 7, .ofNat 9⟩])]

/-- A call for document 2, behind those. -/
def replacingCall : DocId × List (WeightRecord Binary64) := (2, [⟨"cat", .ofNat 3, .ofNat 4⟩])

theorem ofDocuments_accumulates_repeated :
    (ofDocuments repeatedCalls).numDocs = 2 ∧
    (ofDocuments repeatedCalls).idf["cat"]? = some (.ofNat 1) ∧
    (ofDocuments (repeatedCalls ++ [replacingCall])).idf["cat"]? = some (.ofNat 1) ∧
    (∀ call ∈ [replacingCall], call.1 ≠ 1) ∧
    (ofDocuments (repeatedCalls ++ [replacingCall])).vectors[(1 : DocId)]? =
      (ofDocuments repeatedCalls).vectors[(1 : DocId)]? := by
  obtain ⟨hspace, hidf, hvectors⟩ := ofDocuments_accumulates repeatedCalls [replacingCall]
  have hcat : (ofDocuments repeatedCalls).idf["cat"]? = some (.ofNat 1) :=
    (hspace.idf "cat" _).2 ⟨⟨"cat", .ofNat 1, .ofNat 2⟩, ⟨[], _, rfl, rfl, nofun⟩, rfl⟩
  have hother : ∀ call ∈ [replacingCall], call.1 ≠ 1 := by
    intro call hcall
    rw [List.mem_singleton.1 hcall]
    decide
  exact ⟨hspace.size.trans (by decide), hcat, hidf "cat" _ hcat, hother, hvectors 1 hother⟩

end TermSpace

end DocSearch
