/-
The parts of JSON that a manifest is read with, byte by byte, so that the first fault is the one
reported. Some values are only passed over: in them an escape need not name a character and a
number may be of any size.
-/
import DocSearch.Binary64.Decimal
import DocSearch.Manifest.Basic

namespace DocSearch.Manifest

/-- The bytes that are still to be read. -/
abbrev Input := List UInt8

/-- The byte of an ASCII character. -/
def byte (c : Char) : UInt8 := .ofNat c.toNat

/-- The bytes that open and close an object. -/
def openBrace : UInt8 := 0x7B

@[inherit_doc openBrace]
def closeBrace : UInt8 := 0x7D

/-- Drops blanks. -/
def skipBlanks (s : Input) : Input :=
  s.dropWhile fun b => b = 0x20 || b = 0x0A || b = 0x09 || b = 0x0D

/-- Reads the rest of a literal name. -/
def literal : List Char → Input → Except Fault Input
  | [], s => .ok s
  | _ :: _, [] => .error .truncated
  | c :: cs, b :: s => if b = byte c then literal cs s else .error .malformed

/-! ## Strings -/

/-- The value of a hexadecimal digit. -/
def hexDigit? (b : UInt8) : Option Nat :=
  let n := b.toNat
  if 48 ≤ n ∧ n ≤ 57 then some (n - 48)
  else if 97 ≤ n ∧ n ≤ 102 then some (n - 87)
  else if 65 ≤ n ∧ n ≤ 70 then some (n - 55)
  else none

/-- Reads four hexadecimal digits. -/
def hexFour : Input → Except Fault (Nat × Input)
  | a :: b :: c :: d :: rest =>
    match hexDigit? a, hexDigit? b, hexDigit? c, hexDigit? d with
    | some a, some b, some c, some d => .ok (((a * 16 + b) * 16 + c) * 16 + d, rest)
    | _, _, _, _ => .error .malformed
  | _ => .error .truncated

/-- The bytes of a character. -/
def charBytes (n : Nat) : List UInt8 := (String.singleton (.ofNat n)).toUTF8.data.toList

/-- Reads the code point after `\u`; a character beyond the first plane takes two escapes. -/
def codePoint (s : Input) : Except Fault (Nat × Input) := do
  let (n, s) ← hexFour s
  if 0xDC00 ≤ n ∧ n ≤ 0xDFFF then .error .malformed
  else if n < 0xD800 ∨ 0xDBFF < n then .ok (n, s)
  else
    let s ← literal ['\\', 'u'] s
    let (m, s) ← hexFour s
    if m < 0xDC00 ∨ 0xDFFF < m then .error .malformed
    else .ok ((n - 0xD800) * 1024 + (m - 0xDC00) + 0x10000, s)

/-- The byte that a one-letter escape stands for. -/
def simpleEscape? (b : UInt8) : Option UInt8 :=
  if b = byte '"' ∨ b = byte '\\' ∨ b = byte '/' then some b
  else if b = byte 'b' then some 0x08
  else if b = byte 'f' then some 0x0C
  else if b = byte 'n' then some 0x0A
  else if b = byte 'r' then some 0x0D
  else if b = byte 't' then some 0x09
  else none

/-- Reads what follows a backslash. -/
def escape : Input → Except Fault (List UInt8 × Input)
  | [] => .error .truncated
  | b :: s =>
    match simpleEscape? b with
    | some c => .ok ([c], s)
    | none =>
      if b = byte 'u' then (codePoint s).map fun r => (charBytes r.1, r.2) else .error .malformed

/-- Passes over what follows a backslash. -/
def skipEscape : Input → Except Fault (List UInt8 × Input)
  | [] => .error .truncated
  | b :: s =>
    if (simpleEscape? b).isSome then .ok ([], s)
    else if b = byte 'u' then (hexFour s).map fun r => ([], r.2)
    else .error .malformed

/-- Reads a string up to its closing quote, onto the reversed output. The fuel is the number of
bytes that are left. -/
def stringBody (escape : Input → Except Fault (List UInt8 × Input)) (output : List UInt8) :
    Nat → Input → Except Fault (List UInt8 × Input)
  | _, [] => .error .truncated
  | 0, _ :: _ => .error .truncated
  | fuel + 1, b :: s =>
    if b = byte '"' then .ok (output.reverse, s)
    else if b = byte '\\' then do
      let (bytes, s) ← escape s
      stringBody escape (bytes.reverse ++ output) fuel s
    else if b < 0x20 then .error .malformed
    else stringBody escape (b :: output) fuel s

/-- Reads a string after its opening quote; it must be UTF-8. -/
def readString (s : Input) : Except Fault (String × Input) := do
  let (bytes, s) ← stringBody escape [] s.length s
  match String.fromUTF8? ⟨bytes.toArray⟩ with
  | some text => .ok (text, s)
  | none => .error .malformed

/-- Passes over a string after its opening quote. -/
def skipString (s : Input) : Except Fault Input :=
  (stringBody skipEscape [] s.length s).map (·.2)

/-! ## Numbers -/

/-- Whether a byte is a digit. -/
def isDigit (b : UInt8) : Bool := 0x30 ≤ b && b ≤ 0x39

/-- The parts of a number as written. -/
structure Numeral where
  negative : Bool
  whole : List UInt8
  fraction : Option (List UInt8)
  exponent : Option (Bool × List UInt8)

/-- Reads at least one digit; `atEnd` is the fault if the text ends instead. -/
def someDigits (atEnd : Fault) (s : Input) : Except Fault (List UInt8 × Input) :=
  match s with
  | [] => .error atEnd
  | b :: _ =>
    if isDigit b then .ok (s.takeWhile isDigit, s.dropWhile isDigit) else .error .malformed

/-- Reads the digits before the point, of which only a single one may start with zero. -/
def wholeDigits (atEnd : Fault) (s : Input) : Except Fault (List UInt8 × Input) := do
  let (ds, s) ← someDigits atEnd s
  if ds.head? = some (byte '0') ∧ 1 < ds.length then .error .malformed else .ok (ds, s)

/-- Reads the digits after a point, if there is one. -/
def fractionDigits (atEnd : Fault) : Input → Except Fault (Option (List UInt8) × Input)
  | [] => .ok (none, [])
  | b :: s =>
    if b = byte '.' then (someDigits atEnd s).map fun r => (some r.1, r.2) else .ok (none, b :: s)

/-- Reads an exponent, if there is one, with whether it is negative. -/
def exponentDigits (atEnd : Fault) : Input → Except Fault (Option (Bool × List UInt8) × Input)
  | [] => .ok (none, [])
  | b :: s =>
    if b = byte 'e' ∨ b = byte 'E' then
      let (negative, s) := match s with
        | c :: r =>
          if c = byte '-' then (true, r) else if c = byte '+' then (false, r) else (false, s)
        | [] => (false, s)
      (someDigits atEnd s).map fun r => (some (negative, r.1), r.2)
    else .ok (none, b :: s)

/-- Reads a number; `atEnd` is the fault if the text ends where a digit must stand. -/
def numeral (atEnd : Fault) (s : Input) : Except Fault (Numeral × Input) := do
  let (negative, s) := match s with
    | b :: r => if b = byte '-' then (true, r) else (false, s)
    | [] => (false, s)
  let (whole, s) ← wholeDigits atEnd s
  let (fraction, s) ← fractionDigits atEnd s
  let (exponent, s) ← exponentDigits atEnd s
  .ok (⟨negative, whole, fraction, exponent⟩, s)

/-- The value of digits. -/
def digitsValue (ds : List UInt8) : Nat := ds.foldl (fun n b => 10 * n + (b.toNat - 48)) 0

/-- The longest run of leading digits with a value below 2^64, and the number of digits left. -/
def leadingValue (ds : List UInt8) : Nat × Nat :=
  ds.foldl (fun (n, dropped) b =>
    let m := 10 * n + (b.toNat - 48)
    if dropped = 0 ∧ m < 0x10000000000000000 then (m, 0) else (n, dropped + 1)) (0, 0)

/-- Whether a number is too large for a binary64 number, judged by its leading digits. -/
def Numeral.isTooLarge (n : Numeral) : Bool :=
  let fraction := n.fraction.getD []
  let (value, dropped) := leadingValue (n.whole ++ fraction)
  let shift : Int := match n.exponent with
    | none => 0
    | some (true, ds) => -(digitsValue ds : Int)
    | some (false, ds) => digitsValue ds
  let scale : Int := dropped - fraction.length + shift
  if value = 0 ∨ scale < 0 then false
  else if 308 < scale then true
  else !(Binary64.ofNat value * Binary64.ofDecimal false 1 scale).isFinite

/-- The whole number that is written, if it is one without sign, point or exponent. -/
def Numeral.natural? (n : Numeral) : Option Nat :=
  if n.negative ∨ n.fraction.isSome ∨ n.exponent.isSome then none else some (digitsValue n.whole)

/-- Reads a number that has to fit into a binary64 number unless it is a small whole one. -/
def readNumber (s : Input) : Except Fault (Numeral × Input) := do
  let (n, s) ← numeral .truncated s
  let small := n.fraction.isNone ∧ n.exponent.isNone ∧ digitsValue n.whole < 0x10000000000000000
  if ¬ small ∧ n.isTooLarge then .error .malformed else .ok (n, s)

/-! ## Values that are passed over -/

/-- Where a value that is passed over is being read. -/
inductive Place where
  /-- Before a value. -/
  | value
  /-- Before the name of a field. -/
  | name
  /-- After the opening of the innermost array or object. -/
  | opened
  /-- After a value inside the arrays and objects that are open. -/
  | done

/-- Passes over a scalar that starts with `b`. -/
def skipScalar (b : UInt8) (s : Input) : Except Fault Input :=
  if b = byte 'n' then literal ['u', 'l', 'l'] s
  else if b = byte 't' then literal ['r', 'u', 'e'] s
  else if b = byte 'f' then literal ['a', 'l', 's', 'e'] s
  else if b = byte '"' then skipString s
  else if b = byte '-' ∨ isDigit b then (numeral .malformed (b :: s)).map (·.2)
  else .error .malformed

/-- Reads the colon after a name, which the text may not end before. -/
def colon (s : Input) : Except Fault Input :=
  match skipBlanks s with
  | [] => .error .truncated
  | b :: s => if b = byte ':' then .ok s else .error .malformed

/-- Passes over a value. `open'` lists the closing bytes of the arrays and objects that are open,
innermost first. Every second step takes a byte, so twice the bytes and one more are enough fuel. -/
def skipFrom : Nat → Place → List UInt8 → Input → Except Fault Input
  | _, .done, [], s => .ok s
  | 0, _, _, _ => .error .truncated
  | fuel + 1, .value, open', s =>
    match skipBlanks s with
    | [] => .error .truncated
    | b :: s =>
      if b = byte '[' then skipFrom fuel .opened (byte ']' :: open') s
      else if b = openBrace then skipFrom fuel .opened (closeBrace :: open') s
      else do skipFrom fuel .done open' (← skipScalar b s)
  | fuel + 1, .name, open', s =>
    match skipBlanks s with
    | [] => .error .truncated
    | b :: s =>
      if b = byte '"' then do skipFrom fuel .value open' (← colon (← skipString s))
      else .error .malformed
  | fuel + 1, .opened, open', s =>
    match skipBlanks s with
    | [] => .error .truncated
    | b :: s =>
      if open'.head? = some b then skipFrom fuel .done open'.tail s
      else if open'.head? = some closeBrace then skipFrom fuel .name open' (b :: s)
      else skipFrom fuel .value open' (b :: s)
  | fuel + 1, .done, close :: open', s =>
    match skipBlanks s with
    | [] => .error .truncated
    | b :: s =>
      if b = close then skipFrom fuel .done open' s
      else if b = byte ',' then
        skipFrom fuel (if close = closeBrace then .name else .value) (close :: open') s
      else .error .malformed

/-- Passes over a value. -/
def skipValue (s : Input) : Except Fault Input := skipFrom (2 * s.length + 2) .value [] s

end DocSearch.Manifest
