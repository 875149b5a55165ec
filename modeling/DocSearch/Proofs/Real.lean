/-
Exact arithmetic with roots and logarithms: the real numbers as numbers of the library. Sums start
from zero, and are those of their terms in any order.
-/
import Mathlib.Algebra.BigOperators.Group.List.Basic
import Mathlib.Analysis.Real.Sqrt
import Mathlib.Analysis.SpecialFunctions.Log.Basic
import DocSearch.Scalar

namespace DocSearch

noncomputable instance : RealScalar ℝ where
  ofNat n := n
  emptySum := 0
  sqrt := Real.sqrt
  ln := Real.log

theorem Scalar.sum_eq_sum_real (xs : List ℝ) : Scalar.sum xs = xs.sum := List.sum_eq_foldl.symm

end DocSearch
