/-
Percent escapes: which characters of each part of an address are escaped, and the bytes that
escapes stand for.
-/
namespace DocSearch.Url

/-- The digit of a number below sixteen, in capitals. -/
def capitalHexDigit (n : Nat) : Char := .ofNat (if n < 10 then 48 + n else 55 + n)

/-- The escape of a byte. -/
def escapeByte (b : UInt8) : List Char :=
  ['%', capitalHexDigit (b.toNat / 16), capitalHexDigit (b.toNat % 16)]

/-- Escapes a character as the bytes that encode it. -/
def escapeChar (c : Char) : List Char :=
  (String.singleton c).toUTF8.data.toList.flatMap escapeByte

/-- Whether a character is escaped everywhere: a control character or one beyond ASCII. -/
def isControl (c : Char) : Bool := c.toNat < 0x20 || 0x7E < c.toNat

/-- Whether a character is escaped in fragments. -/
def inFragmentSet (c : Char) : Bool := isControl c || " \"<>`".toList.contains c

/-- Whether a character is escaped in queries. -/
def inQuerySet (c : Char) : Bool := isControl c || " \"#<>".toList.contains c

/-- Whether a character is escaped in the queries of special addresses. -/
def inSpecialQuerySet (c : Char) : Bool := inQuerySet c || c = '\''

/-- Whether a character is escaped in path segments. -/
def inPathSet (c : Char) : Bool :=
  inFragmentSet c || ['#', '?', '\x7b', '\x7d'].contains c

/-- Whether a character is escaped in user names and passwords. -/
def inUserSet (c : Char) : Bool := inPathSet c || "/:;=@[\\]^|".toList.contains c

/-- What is written for a character: its escape if it is in a set. -/
def escapeIn (inSet : Char → Bool) (c : Char) : List Char := if inSet c then escapeChar c else [c]

/-- Escapes the characters of a set. -/
def escape (inSet : Char → Bool) (cs : List Char) : String := .ofList (cs.flatMap (escapeIn inSet))

/-- The value of a hexadecimal digit. -/
def hexValue? (c : Char) : Option Nat :=
  if '0' ≤ c ∧ c ≤ '9' then some (c.toNat - 48)
  else if 'a' ≤ c ∧ c ≤ 'f' then some (c.toNat - 87)
  else if 'A' ≤ c ∧ c ≤ 'F' then some (c.toNat - 55)
  else none

/-- The bytes of a text in which escapes stand for the bytes they write. -/
def unescape : List Char → List UInt8
  | '%' :: a :: b :: rest =>
    match hexValue? a, hexValue? b with
    | some x, some y => .ofNat (16 * x + y) :: unescape rest
    | _, _ => 0x25 :: unescape (a :: b :: rest)
  | c :: rest => (String.singleton c).toUTF8.data.toList ++ unescape rest
  | [] => []

end DocSearch.Url
