/-
Rounding of exact quotients: to an integer, and to the nearest binary64 number. Halves go to the
even neighbour.
-/
import DocSearch.Binary64.Basic

namespace DocSearch

/-- The integer nearest to `num / den`, of two the even one. -/
def roundDiv (num den : Nat) : Nat :=
  let q := num / den
  let r := num % den
  if den < 2 * r ∨ (2 * r = den ∧ q % 2 = 1) then q + 1 else q

/-- `n * 2 ^ e` as a quotient. -/
def scaleTwo (n : Nat) (e : Int) : Nat × Nat := (n * Nat.pow 2 e.toNat, Nat.pow 2 (-e).toNat)

/-- The exponent of the greatest power of two that is at most `num / den`, for positive numbers. -/
def floorLog2 (num den : Nat) : Int :=
  let k : Int := (num.log2 : Int) - (den.log2 : Int)
  if den * Nat.pow 2 k.toNat ≤ num * Nat.pow 2 (-k).toNat then k else k - 1

namespace Binary64

/-- The nearest binary64 number of the given sign and absolute value `num / den`, with `den`
positive. A rounded significand of 2^53 carries into the exponent field by itself. -/
def ofRatio (negative : Bool) (num den : Nat) : Binary64 :=
  if num = 0 then ofMagnitude negative 0
  else
    let e := max (floorLog2 num den - 52) (-1074)
    let q := roundDiv (num * Nat.pow 2 (-e).toNat) (den * Nat.pow 2 e.toNat)
    ofMagnitude negative (min ((e + 1074).toNat * 0x10000000000000 + q) infinityMagnitude)

/-- The nearest binary64 number to a whole number. -/
def ofNat (n : Nat) : Binary64 := ofRatio false n 1

/-- Sums start from negative zero, the only start that changes no sum. -/
instance : RealScalar Binary64 where
  ofNat := ofNat
  emptySum := negZero
  sqrt := sqrt
  ln := ln

end Binary64

end DocSearch
