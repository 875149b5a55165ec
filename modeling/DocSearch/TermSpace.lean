/-
A term space: the vector of every document and the inverse document frequency of every term, put
together from the weight records of the documents in the order they arrive.
-/
import DocSearch.DocId
import DocSearch.TermVector

namespace DocSearch

/-- The weight of a term in a document, with the term's inverse document frequency. -/
structure WeightRecord (α : Type) where
  term : String
  idf : α
  tfidf : α
  deriving DecidableEq

/-- The vectors of the documents and the inverse document frequencies of the terms. -/
structure TermSpace (α : Type) where
  vectors : Std.ExtTreeMap DocId (TermVector α)
  idf : Std.ExtTreeMap String α

namespace TermSpace

variable {α : Type}

/-- The space without documents. -/
def empty : TermSpace α := ⟨∅, ∅⟩

/-- Adds a document. Its vector replaces an earlier one of the same document, a later record of a
term replaces an earlier one, and the first frequency seen for a term is kept. -/
def add (s : TermSpace α) (doc : DocId) (records : List (WeightRecord α)) : TermSpace α :=
  ⟨s.vectors.insert doc (TermVector.ofEntries (records.map fun r => (r.term, r.tfidf))),
    records.foldl (fun m r => m.insertIfNew r.term r.idf) s.idf⟩

/-- The space of the given documents, added in order. -/
def ofDocuments (ds : List (DocId × List (WeightRecord α))) : TermSpace α :=
  ds.foldl (fun s d => s.add d.1 d.2) empty

/-- The number of documents. -/
def numDocs (s : TermSpace α) : Nat := s.vectors.size

end TermSpace

end DocSearch
