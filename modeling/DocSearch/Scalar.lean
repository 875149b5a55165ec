/-
The arithmetic that weights and scores need. The library computes with binary64 numbers; its laws
speak of any numbers that have these operations.
-/
namespace DocSearch

/-- Numbers that can be counted, combined and summed. -/
class Scalar (α : Type) extends Add α, Sub α, Mul α, Div α where
  /-- The number of a count. -/
  ofNat : Nat → α
  /-- The value of a sum without terms, from which every sum starts. -/
  emptySum : α

/-- Numbers with the two functions of term weighting. -/
class RealScalar (α : Type) extends Scalar α where
  /-- The square root. -/
  sqrt : α → α
  /-- The natural logarithm. -/
  ln : α → α

namespace Scalar

variable {α : Type} [Scalar α]

/-- The number zero. -/
def zero : α := ofNat 0

/-- The number one. -/
def one : α := ofNat 1

/-- The sum of a list, added from the left. -/
def sum (xs : List α) : α := xs.foldl (· + ·) emptySum

end Scalar

end DocSearch
