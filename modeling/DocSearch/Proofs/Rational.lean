/-
Exact arithmetic: the rational numbers as numbers of the library. Sums start from zero, and are those
of their terms in any order.
-/
import Mathlib.Algebra.BigOperators.Group.List.Basic
import Mathlib.Algebra.Order.Ring.Rat
import DocSearch.Scalar

namespace DocSearch

instance : Scalar ℚ where
  ofNat n := n
  emptySum := 0

theorem Scalar.sum_eq_sum (xs : List ℚ) : Scalar.sum xs = xs.sum := List.sum_eq_foldl.symm

end DocSearch
