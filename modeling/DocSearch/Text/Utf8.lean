/-
Reading bytes as text. Strict reading refuses a stream that is not UTF-8; lossy reading puts one
replacement character for each maximal piece that begins no character.
-/
namespace DocSearch.Text

/-- The text a byte string encodes, if it is UTF-8. -/
def decode? (bytes : ByteArray) : Option String := String.fromUTF8? bytes

namespace Lossy

/-- Whether a byte continues a character. -/
def isTail (b : UInt8) : Bool := 0x80 ≤ b && b ≤ 0xBF

/-- Whether `b` may follow the first byte `a` of a character of three bytes. -/
def isSecondOfThree (a b : UInt8) : Bool :=
  if a = 0xE0 then 0xA0 ≤ b && b ≤ 0xBF
  else if a = 0xED then 0x80 ≤ b && b ≤ 0x9F
  else isTail b

/-- Whether `b` may follow the first byte `a` of a character of four bytes. -/
def isSecondOfFour (a b : UInt8) : Bool :=
  if a = 0xF0 then 0x90 ≤ b && b ≤ 0xBF
  else if a = 0xF4 then 0x80 ≤ b && b ≤ 0x8F
  else isTail b

/-- The payload of a byte that continues a character. -/
def tailBits (b : UInt8) : Nat := b.toNat % 64

/-- What stands for a piece that is no character. -/
def replacement : Char := '\uFFFD'

/-- The first character of the text `a` begins, and how many bytes after `a` it takes. -/
def step (a : UInt8) (rest : List UInt8) : Char × Nat :=
  if a < 0x80 then (.ofNat a.toNat, 0)
  else if 0xC2 ≤ a && a ≤ 0xDF then
    match rest with
    | b :: _ => if isTail b then (.ofNat (a.toNat % 32 * 64 + tailBits b), 1) else (replacement, 0)
    | [] => (replacement, 0)
  else if 0xE0 ≤ a && a ≤ 0xEF then
    match rest with
    | b :: c :: _ =>
      if !isSecondOfThree a b then (replacement, 0)
      else if !isTail c then (replacement, 1)
      else (.ofNat ((a.toNat % 16 * 64 + tailBits b) * 64 + tailBits c), 2)
    | [b] => (replacement, if isSecondOfThree a b then 1 else 0)
    | [] => (replacement, 0)
  else if 0xF0 ≤ a && a ≤ 0xF4 then
    match rest with
    | b :: c :: d :: _ =>
      if !isSecondOfFour a b then (replacement, 0)
      else if !isTail c then (replacement, 1)
      else if !isTail d then (replacement, 2)
      else (.ofNat (((a.toNat % 8 * 64 + tailBits b) * 64 + tailBits c) * 64 + tailBits d), 3)
    | [b, c] => (replacement, if !isSecondOfFour a b then 0 else if isTail c then 2 else 1)
    | [b] => (replacement, if isSecondOfFour a b then 1 else 0)
    | [] => (replacement, 0)
  else (replacement, 0)

/-- Decodes the rest of a byte string onto the reversed output. -/
def decodeFrom (output : List Char) : List UInt8 → List Char
  | [] => output.reverse
  | a :: rest =>
    let (c, n) := step a rest
    decodeFrom (c :: output) (rest.drop n)
termination_by bytes => bytes.length
decreasing_by simp only [List.length_drop, List.length_cons]; omega

end Lossy

/-- The text of a byte string, with a replacement character for each piece that is no character. -/
def decodeLossy (bytes : ByteArray) : List Char := Lossy.decodeFrom [] bytes.data.toList

end DocSearch.Text
