/-
Decimal text of a binary64 number, from its exact value: with a fixed number of fractional digits,
or in scientific notation with a fixed number of significant digits. The sign of a zero is kept.
-/
import DocSearch.Binary64.Round

namespace DocSearch

/-- The decimal digits of `n`, with zeros in front up to `width`. -/
def paddedDigits (width n : Nat) : String :=
  String.ofList (List.replicate (width - n.repr.length) '0') ++ n.repr

/-- The text of `n / 10 ^ places` with all its places. -/
def fixedPoint (places n : Nat) : String :=
  (n / Nat.pow 10 places).repr ++ "." ++ paddedDigits places (n % Nat.pow 10 places)

/-- The exponent of the greatest power of ten that is at most `num / den`, for positive numbers in
the range of binary64: there the logarithm to base two leaves four candidates. -/
def floorLog10 (num den : Nat) : Int :=
  let guess : Int := (floorLog2 num den * 301) / 1000 - 1
  let reaches (k : Int) : Bool := den * Nat.pow 10 k.toNat ≤ num * Nat.pow 10 (-k).toNat
  if reaches (guess + 3) then guess + 3
  else if reaches (guess + 2) then guess + 2
  else if reaches (guess + 1) then guess + 1
  else guess

namespace Binary64

/-- The text of a number that is not finite, or of the sign and absolute value of a finite one. -/
def textWith (x : Binary64) (finite : Nat → Nat → String) : String :=
  if x.isNaN then "NaN"
  else
    let sign := if x.isNegative then "-" else ""
    if x.isFinite then
      let (m, e) := x.decode
      let (num, den) := scaleTwo m e
      sign ++ finite num den
    else sign ++ "inf"

/-- The nearest decimal with the given number of fractional digits. -/
def fixed (places : Nat) (x : Binary64) : String :=
  x.textWith fun num den => fixedPoint places (roundDiv (num * Nat.pow 10 places) den)

/-- The nearest decimal with one digit before the point and `places` after it. -/
def scientific (places : Nat) (x : Binary64) : String :=
  x.textWith fun num den =>
    if num = 0 then fixedPoint places 0 ++ "e0"
    else
      let k := floorLog10 num den
      let s := (places : Int) - k
      let n := roundDiv (num * Nat.pow 10 s.toNat) (den * Nat.pow 10 (-s).toNat)
      let (n, k) := if n = Nat.pow 10 (places + 1) then (Nat.pow 10 places, k + 1) else (n, k)
      fixedPoint places n ++ "e" ++ (if k < 0 then "-" else "") ++ k.natAbs.repr

end Binary64

end DocSearch
