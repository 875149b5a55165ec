/-
An inverted index: the documents of every term, and every document that was ever listed. Storing a
term again replaces its documents; what it listed before stays known as a document.
-/
import Std.Data.ExtTreeMap
import DocSearch.DocSet

namespace DocSearch

/-- The documents of each term, and all documents seen. -/
structure Postings where
  lists : Std.ExtTreeMap String DocSet
  seen : DocSet

namespace Postings

/-- The index without terms. -/
def empty : Postings := ⟨∅, ∅⟩

/-- Stores the documents of a term in place of those it had. -/
def insert (p : Postings) (term : String) (docs : DocSet) : Postings :=
  ⟨p.lists.insert term docs, p.seen ∪ docs⟩

/-- The documents stored for a term. -/
def find? (p : Postings) (term : String) : Option DocSet := p.lists[term]?

/-- The documents of a term; an unknown term has none. -/
def docs (p : Postings) (term : String) : DocSet := (p.find? term).getD ∅

/-- The number of terms. -/
def size (p : Postings) : Nat := p.lists.size

/-- The terms in ascending order, each with its documents. -/
def toList (p : Postings) : List (String × DocSet) := p.lists.toList

@[simp] theorem find?_insert (p : Postings) (t u : String) (ds : DocSet) :
    (p.insert t ds).find? u = if t = u then some ds else p.find? u := by
  simp [find?, insert, Std.ExtTreeMap.getElem?_insert]

@[simp] theorem mem_seen_insert (p : Postings) (t : String) (ds : DocSet) (d : DocId) :
    d ∈ (p.insert t ds).seen ↔ d ∈ p.seen ∨ d ∈ ds := by
  simp [insert]

end Postings

end DocSearch
