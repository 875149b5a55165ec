/-
Binary64 numbers as bit patterns. Arithmetic is that of `Float`, except that a result which is no
number keeps a sign: an operand that is no number passes through, and an invalid operation gives
the negative one. The total order of the patterns depends on that sign.
-/
import DocSearch.Scalar

namespace DocSearch

/-- A binary64 number, given by its bit pattern. -/
structure Binary64 where
  bits : UInt64
  deriving DecidableEq

namespace Binary64

/-- The pattern without its sign bit. -/
def magnitude (x : Binary64) : Nat := x.bits.toNat % 0x8000000000000000

/-- Whether the sign bit is set. -/
def isNegative (x : Binary64) : Bool := 0x8000000000000000 ≤ x.bits.toNat

/-- The magnitude of infinity. -/
def infinityMagnitude : Nat := 0x7FF0000000000000

/-- Whether the pattern is no number. -/
def isNaN (x : Binary64) : Bool := infinityMagnitude < x.magnitude

/-- Whether the pattern is a number other than an infinity. -/
def isFinite (x : Binary64) : Bool := x.magnitude < infinityMagnitude

/-- The pattern of the given sign and magnitude. -/
def ofMagnitude (negative : Bool) (m : Nat) : Binary64 :=
  ⟨.ofNat (if negative then 0x8000000000000000 + m else m)⟩

/-- Positive zero. -/
def zero : Binary64 := ofMagnitude false 0

/-- Negative zero. -/
def negZero : Binary64 := ofMagnitude true 0

/-- Positive or negative infinity. -/
def infinity (negative : Bool) : Binary64 := ofMagnitude negative infinityMagnitude

/-- The pattern that the text of a non-number reads as. -/
def nan (negative : Bool) : Binary64 := ofMagnitude negative (infinityMagnitude + 0x8000000000000)

/-- The pattern that an invalid operation gives. -/
def invalid : Binary64 := nan true

/-- A finite pattern stands for `m * 2 ^ e` with these `m` and `e`. -/
def decode (x : Binary64) : Nat × Int :=
  let e : Nat := x.magnitude / 0x10000000000000
  let f : Nat := x.magnitude % 0x10000000000000
  if e = 0 then (f, -1074) else (f + 0x10000000000000, (e : Int) - 1075)

/-! ## Arithmetic -/

/-- The same number as a `Float`. -/
def toFloat (x : Binary64) : Float := .ofBits x.bits

/-- The pattern of an operation's result. -/
def ofResult (r : Float) : Binary64 :=
  let x : Binary64 := ⟨r.toBits⟩
  if x.isNaN then invalid else x

/-- Applies an operation to two numbers; an operand that is no number is the result. -/
def combine (op : Float → Float → Float) (x y : Binary64) : Binary64 :=
  if x.isNaN then x else if y.isNaN then y else ofResult (op x.toFloat y.toFloat)

instance : Add Binary64 := ⟨combine (· + ·)⟩
instance : Sub Binary64 := ⟨combine (· - ·)⟩
instance : Mul Binary64 := ⟨combine (· * ·)⟩
instance : Div Binary64 := ⟨combine (· / ·)⟩

/-- The square root. -/
def sqrt (x : Binary64) : Binary64 := if x.isNaN then x else ofResult x.toFloat.sqrt

/-- The natural logarithm; that of one is zero. -/
def ln (x : Binary64) : Binary64 :=
  if x.isNaN then x else if x.toFloat == 1 then zero else ofResult x.toFloat.log

/-! ## Order -/

/-- The place of a pattern in the total order: -0 below +0, and the patterns that are no number
outside the infinities. -/
def orderKey (x : Binary64) : Int :=
  if x.isNegative then -1 - (x.magnitude : Int) else x.magnitude

/-- Patterns are ordered by the total order. -/
instance : Ord Binary64 := ⟨fun x y => compare x.orderKey y.orderKey⟩

/-- Equality of numbers: the two zeros are equal, and no number differs from itself. -/
instance : BEq Binary64 := ⟨fun x y => x.toFloat == y.toFloat⟩

end Binary64

end DocSearch
