/-
Reading decimal text as the nearest binary64 number.
-/
import DocSearch.Binary64.Round
import DocSearch.DocId

namespace DocSearch.Binary64

/-- The nearest number to `digits * 10 ^ scale`. Beyond the range in which the answer can be
anything but an infinity or zero, no power is computed. -/
def ofDecimal (negative : Bool) (digits : Nat) (scale : Int) : Binary64 :=
  let places : Int := digits.log2 / 4 + scale
  if digits = 0 then ofMagnitude negative 0
  else if 400 < places then infinity negative
  else if (digits.log2 : Int) + scale < -1200 then ofMagnitude negative 0
  else ofRatio negative (digits * Nat.pow 10 scale.toNat) (Nat.pow 10 (-scale).toNat)

/-- The value of decimal digits, zero if there are none. -/
def digitValue (cs : List Char) : Nat := (Numeral.digits? cs).getD 0

/-- Whether a character is an ASCII digit. -/
def isDigit (c : Char) : Bool := '0' ≤ c && c ≤ '9'

/-- Reads an exponent: nothing, or the letter `e` with an optional sign and digits. -/
def exponent? : List Char → Option Int
  | [] => some 0
  | c :: rest =>
    if c = 'e' ∨ c = 'E' then
      match rest with
      | '-' :: ds => (Numeral.digits? ds).map fun n => -(n : Int)
      | '+' :: ds => (Numeral.digits? ds).map Int.ofNat
      | ds => (Numeral.digits? ds).map Int.ofNat
    else none

/-- Reads a number without sign: digits with at most one point among or beside them, and an
optional exponent. -/
def unsigned? (negative : Bool) (cs : List Char) : Option Binary64 :=
  let whole := cs.takeWhile isDigit
  let rest := cs.dropWhile isDigit
  let (fraction, rest) := match rest with
    | '.' :: r => (r.takeWhile isDigit, r.dropWhile isDigit)
    | _ => ([], rest)
  if whole.isEmpty && fraction.isEmpty then none
  else (exponent? rest).map fun e =>
    ofDecimal negative (digitValue (whole ++ fraction)) (e - fraction.length)

/-- The text with its ASCII capitals made small. -/
def lowerAscii (cs : List Char) : String := .ofList (cs.map Char.toLower)

/-- Reads a number: an optional sign and either decimal text or the name of an infinity or of a
non-number, in letters of any case. -/
def read? (cs : List Char) : Option Binary64 :=
  let (negative, rest) := match cs with
    | '-' :: r => (true, r)
    | '+' :: r => (false, r)
    | _ => (false, cs)
  let name := lowerAscii rest
  if name = "inf" ∨ name = "infinity" then some (infinity negative)
  else if name = "nan" then some (nan negative)
  else unsigned? negative rest

end DocSearch.Binary64
