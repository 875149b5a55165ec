/-
Numeric hosts: the readers of both versions.
-/
import DocSearch.DocId
import DocSearch.Url.Basic
import DocSearch.Url.Percent

namespace DocSearch.Url

/-- The value of digits to a base, if all are digits of it. -/
def digitsTo? (base : Nat) (cs : List Char) : Option Nat :=
  cs.foldlM (fun n c => ((hexValue? c).filter (· < base)).map (base * n + ·)) 0

/-! ## The fourth version -/

/-- A part of a numeric host: decimal, octal after `0`, hexadecimal after `0x`. -/
def ipv4Part? (cs : List Char) : Option Nat :=
  match cs with
  | [] => none
  | '0' :: x :: rest =>
    if x = 'x' ∨ x = 'X' then digitsTo? 16 rest else digitsTo? 8 (x :: rest)
  | _ => digitsTo? 10 cs

/-- The parts of a host name, without an empty one at the end. -/
def dottedParts (cs : List Char) : List (List Char) :=
  let parts := cs.splitOn '.'
  if 1 < parts.length ∧ parts.getLast? = some [] then parts.dropLast else parts

/-- Whether a host name is to be read as a number: its last part is one. -/
def endsInNumber (cs : List Char) : Bool :=
  match (dottedParts cs).getLast? with
  | none => false
  | some last => (!last.isEmpty && last.all Char.isDigit) || (ipv4Part? last).isSome

/-- Reads a numeric host: up to four parts, of which the last fills the bytes that are left. -/
def ipv4? (cs : List Char) : Option Nat := do
  let parts := dottedParts cs
  if 4 < parts.length then none
  else
    let numbers ← parts.mapM ipv4Part?
    let last ← numbers.getLast?
    let front := numbers.dropLast
    if front.any (255 < ·) ∨ Nat.pow 256 (4 - front.length) ≤ last then none
    else some (front.foldr (fun n acc => n * 0x1000000 + acc / 256) 0 + last)

/-! ## The sixth version -/

/-- A piece of one to four hexadecimal digits. -/
def ipv6Piece? (cs : List Char) : Option Nat :=
  if cs.isEmpty ∨ 4 < cs.length then none else digitsTo? 16 cs

/-- A byte in decimal, without zeros in front. -/
def decimalByte? (cs : List Char) : Option Nat :=
  if cs.isEmpty ∨ (cs.head? = some '0' ∧ 1 < cs.length) then none
  else (digitsTo? 10 cs).filter (· < 256)

/-- Two pieces written as four bytes in decimal. -/
def ipv6Tail? (cs : List Char) : Option (List Nat) :=
  match (cs.splitOn '.').mapM decimalByte? with
  | some [a, b, c, d] => some [256 * a + b, 256 * c + d]
  | _ => none

/-- Reads pieces between colons; the last may be written as bytes if `atEnd`. -/
def ipv6Pieces? (atEnd : Bool) (cs : List Char) : Option (List Nat) :=
  if cs.isEmpty then some []
  else
    let parts := cs.splitOn ':'
    match parts.getLast? with
    | none => some []
    | some last => do
      let front ← parts.dropLast.mapM ipv6Piece?
      if atEnd ∧ '.' ∈ last then some (front ++ (← ipv6Tail? last))
      else some (front ++ [← ipv6Piece? last])

/-- Splits at the first two colons in a row. -/
def splitDoubleColon (before : List Char) : List Char → Option (List Char × List Char)
  | ':' :: ':' :: rest => some (before.reverse, rest)
  | c :: rest => splitDoubleColon (c :: before) rest
  | [] => none

/-- Reads an address of eight pieces, of which two colons may stand for one or more zeros. -/
def ipv6? (cs : List Char) : Option (List Nat) :=
  match splitDoubleColon [] cs with
  | none => (ipv6Pieces? true cs).filter (·.length = 8)
  | some (left, right) => do
    let l ← ipv6Pieces? false left
    let r ← ipv6Pieces? true right
    if 7 < l.length + r.length then none
    else some (l ++ List.replicate (8 - l.length - r.length) 0 ++ r)

end DocSearch.Url
