/-
Ranked documents and their order: by score descending, then by authority descending, then by
identifier. A document without authority is placed as one of authority zero.
-/
import DocSearch.DocId
import DocSearch.Scalar

namespace DocSearch

/-- A document with its score and, when documents have authority, its authority. -/
structure Hit (α : Type) where
  doc : DocId
  score : α
  authority : Option α
  deriving DecidableEq

namespace Hit

variable {α : Type} [Scalar α] [Ord α]

/-- The order of hits, best first. -/
def order (a b : Hit α) : Ordering :=
  (compare b.score a.score).then <|
    (compare (b.authority.getD Scalar.zero) (a.authority.getD Scalar.zero)).then <|
      compare a.doc b.doc

/-- Sorts hits, best first; hits of the same place keep their order. -/
def sort (hs : List (Hit α)) : List (Hit α) := hs.mergeSort fun a b => (order a b).isLE

end Hit

end DocSearch
