/-
Fusion of two ranked lists: the weighted sum of the scores of each document, where a list that does
not hold the document counts as zero.
-/
import Std.Data.ExtTreeMap
import DocSearch.Ranking.Hit

namespace DocSearch.Ranking

variable {α : Type} [Scalar α]

/-- Takes a hit of the first list. -/
def addFirst (weight : α) (m : Std.ExtTreeMap DocId (Hit α)) (h : Hit α) :
    Std.ExtTreeMap DocId (Hit α) :=
  m.insert h.doc { h with score := weight * h.score }

/-- Takes a hit of the second list; a document that is there already keeps its authority. -/
def addSecond (weight : α) (m : Std.ExtTreeMap DocId (Hit α)) (h : Hit α) :
    Std.ExtTreeMap DocId (Hit α) :=
  let part := (Scalar.one - weight) * h.score
  m.alter h.doc fun
    | some found => some { found with score := found.score + part }
    | none => some { h with score := part }

/-- The documents of both lists with `weight * first + (1 - weight) * second`, best first. -/
def fuse [Ord α] (first second : List (Hit α)) (weight : α) : List (Hit α) :=
  Hit.sort (second.foldl (addSecond weight) (first.foldl (addFirst weight) ∅)).values

end DocSearch.Ranking
