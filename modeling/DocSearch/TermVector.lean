/-
Sparse vectors over terms. Sums run over the terms in ascending order, so equal vectors give equal
sums in any arithmetic.
-/
import Std.Data.ExtTreeMap
import DocSearch.Scalar

namespace DocSearch

/-- The weights of the terms that have one. -/
abbrev TermVector (α : Type) := Std.ExtTreeMap String α

namespace TermVector

variable {α : Type}

/-- The vector with the given weights; a later weight of a term replaces an earlier one. -/
def ofEntries (es : List (String × α)) : TermVector α :=
  es.foldl (fun v e => v.insert e.1 e.2) ∅

/-- The weight of a term; an absent term weighs zero. -/
def weight [Scalar α] (v : TermVector α) (term : String) : α := (v[term]?).getD Scalar.zero

/-- The length of a vector. -/
def norm [RealScalar α] (v : TermVector α) : α :=
  RealScalar.sqrt (Scalar.sum (v.toList.map fun e => e.2 * e.2))

/-- The sum of `small`'s weights times those of `large` at the same terms. -/
def dotOver [Scalar α] (small large : TermVector α) : α :=
  Scalar.sum (small.toList.map fun e => e.2 * weight large e.1)

/-- The dot product, taken over the terms of the vector with fewer terms. -/
def dot [Scalar α] (v w : TermVector α) : α :=
  if v.size ≤ w.size then dotOver v w else dotOver w v

/-- The cosine of the angle between two vectors, kept away from division by zero by `epsilon`. -/
def cosine [RealScalar α] (v w : TermVector α) (epsilon : α) : α :=
  dot v w / (norm v * norm w + epsilon)

/-- Whether two vectors have the same terms with equal weights, as the numbers compare. -/
def sameWeights [BEq α] (v w : TermVector α) : Bool := v.toList == w.toList

end TermVector

end DocSearch
