/-
Document identifiers and the unsigned numerals they are written in.
-/
namespace DocSearch

/-- A document identifier: a whole number below 2^32. -/
abbrev DocId := UInt32

namespace Numeral

/-- The number that decimal digits write; no digits or any other character is refused. -/
def digits? (cs : List Char) : Option Nat :=
  if !cs.isEmpty && cs.all (fun c => '0' ≤ c && c ≤ '9') then
    some (cs.foldl (fun n c => 10 * n + (c.toNat - '0'.toNat)) 0)
  else none

/-- An unsigned numeral below `bound`: digits, with or without a plus sign. -/
def below? (bound : Nat) (cs : List Char) : Option Nat :=
  let digits := match cs with
    | '+' :: rest => rest
    | _ => cs
  (digits? digits).filter (· < bound)

end Numeral

namespace DocId

/-- Reads an identifier: an optional plus sign and decimal digits, with a value below 2^32. -/
def read? (cs : List Char) : Option DocId := (Numeral.below? UInt32.size cs).map .ofNat

/-- The decimal text of an identifier. -/
def text (d : DocId) : String := d.toNat.repr

end DocId

end DocSearch
