/-
The spelling of any text in ASCII letters, digits and hyphens: first the ASCII characters of the
text, then for each other character, in ascending order, how far to go on from the one before. The
distances are numbers of a variable length, whose digits are weighed by the distances so far.
-/
namespace DocSearch.Url.Punycode

/-! ## Digits -/

/-- The character of a digit: the letters come first. -/
def digitChar (d : Nat) : Char := .ofNat (if d < 26 then 0x61 + d else 0x30 + d - 26)

/-- The value of a digit. -/
def digitValue? (c : Char) : Option Nat :=
  if 'a' ≤ c ∧ c ≤ 'z' then some (c.toNat - 0x61)
  else if 'A' ≤ c ∧ c ≤ 'Z' then some (c.toNat - 0x41)
  else if '0' ≤ c ∧ c ≤ '9' then some (c.toNat - 0x30 + 26)
  else none

/-- Where digits begin to end a number, for the digit at position `k` (counted by 36). -/
def threshold (bias k : Nat) : Nat := max 1 (min 26 (k - bias))

theorem threshold_pos (bias k : Nat) : 1 ≤ threshold bias k := Nat.le_max_left ..

/-- The bias for a number that is expected to be near `delta`. -/
def biasFor (k delta : Nat) : Nat :=
  if 455 < delta then biasFor (k + 36) (delta / 35) else k + 36 * delta / (delta + 38)
termination_by delta
decreasing_by exact Nat.div_lt_self (by omega) (by omega)

/-- The bias after the distance `delta` to the character that makes `count`. -/
def adapt (isFirst : Bool) (delta count : Nat) : Nat :=
  let d := if isFirst then delta / 700 else delta / 2
  biasFor 0 (d + d / count)

/-! ## Writing -/

/-- The digits of a number, from position `k` on. -/
def writeNumber (bias k n : Nat) : List Char :=
  let t := threshold bias k
  if n < t then [digitChar n]
  else digitChar (t + (n - t) % (36 - t)) :: writeNumber bias (k + 36) ((n - t) / (36 - t))
termination_by n
decreasing_by
  have ht := threshold_pos bias k
  exact Nat.lt_of_le_of_lt (Nat.div_le_self ..) (by omega)

/-- What is known after some of the text: the characters written so far, the distance gone since the
last one, and the bias. -/
structure Writer where
  output : List Char
  count : Nat
  delta : Nat
  bias : Nat
  isFirst : Bool

/-- Goes past one character on the way to the code point `n`, or writes it down. -/
def Writer.pass (w : Writer) (n : Nat) (c : Char) : Writer :=
  if c.toNat < n then { w with delta := w.delta + 1 }
  else if c.toNat = n then
    ⟨w.output ++ writeNumber w.bias 36 w.delta, w.count + 1, 0,
      adapt w.isFirst w.delta (w.count + 1), false⟩
  else w

/-- Writes down each place of the code points in ascending order; `n` is the least still to come. -/
def Writer.run (cs : List Char) (w : Writer) (n : Nat) : List Nat → List Char
  | [] => w.output
  | m :: rest =>
    let w := cs.foldl (·.pass m) { w with delta := w.delta + (m - n) * (w.count + 1) }
    Writer.run cs { w with delta := w.delta + 1 } (m + 1) rest

/-- Whether a character is one of ASCII. -/
def isAscii (c : Char) : Bool := c.toNat < 0x80

/-- Spells a text. -/
def encode (cs : List Char) : List Char :=
  let plain := cs.filter isAscii
  let others := ((cs.filter (!isAscii ·)).map Char.toNat).mergeSort.eraseDups
  (if plain.isEmpty then [] else plain ++ ['-']) ++
    Writer.run cs ⟨[], plain.length, 0, 72, true⟩ 0x80 others

/-! ## Reading -/

/-- What is known after some of the digits: the text and the bias so far, the code point and the
place of the last character, and the number that is being read, its weight and its position. -/
structure Reader where
  output : List Char
  bias : Nat
  code : Nat
  place : Nat
  number : Nat
  weight : Nat
  position : Nat
  isFirst : Bool

/-- The code point and place of a character, and the text with it. -/
def Reader.insert? (r : Reader) (distance : Nat) : Option Reader :=
  let count := r.output.length + 1
  let code := r.code + (r.place + distance) / count
  let place := (r.place + distance) % count
  if code.isValidChar then
    some ⟨r.output.take place ++ .ofNat code :: r.output.drop place,
      adapt r.isFirst distance count, code, place + 1, 0, 1, 36, false⟩
  else none

/-- Reads one digit. -/
def Reader.step? (r : Reader) (c : Char) : Option Reader := do
  let d ← digitValue? c
  let t := threshold r.bias r.position
  let number := r.number + d * r.weight
  if d < t then r.insert? number
  else some { r with number := number, weight := r.weight * (36 - t), position := r.position + 36 }

/-- Splits a spelling at its last hyphen, if that is not its first character. -/
def splitSpelling (cs : List Char) : List Char × List Char :=
  let digits := (cs.reverse.takeWhile (· != '-')).reverse
  if cs.length ≤ digits.length + 1 then ([], cs)
  else (cs.take (cs.length - digits.length - 1), digits)

/-- The text of a spelling. -/
def decode? (cs : List Char) : Option (List Char) := do
  let (plain, digits) := splitSpelling cs
  if plain.all isAscii then
    let r ← digits.foldlM Reader.step? ⟨plain, 72, 0x80, 0, 0, 1, 36, true⟩
    if r.position = 36 then some r.output else none
  else none

end DocSearch.Url.Punycode
