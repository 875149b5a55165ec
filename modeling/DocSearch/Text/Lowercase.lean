/-
Lowercase text. Every character maps by itself, with two exceptions: a capital I with a dot becomes
two characters, and a capital sigma takes its final form at the end of a word.
-/
import DocSearch.Text.Lowercase.Context
import DocSearch.Text.Lowercase.Table

namespace DocSearch.Text

/-- The lowercase of a single character, apart from the exceptions. -/
def lowerSimple (c : Char) : Char := .ofNat (CaseRun.apply lowerRuns c.toNat)

/-- Whether the nearest character that is not passed over has case. -/
def meetsCased (cs : List Char) : Bool :=
  match cs.dropWhile isCaseIgnorable with
  | [] => false
  | c :: _ => isCased c

/-- The lowercase of `c` between the characters `before`, nearest first, and `after`. -/
def lowerAt (before : List Char) (c : Char) (after : List Char) : List Char :=
  if c = 'Σ' then [if meetsCased before && !meetsCased after then 'ς' else 'σ']
  else if c = 'İ' then ['i', '\u0307']
  else [lowerSimple c]

/-- Lowercases the rest of a text, after `before` (nearest first), onto the reversed output. -/
def lowerFrom (before output : List Char) : List Char → List Char
  | [] => output.reverse
  | c :: after => lowerFrom (c :: before) ((lowerAt before c after).reverse ++ output) after

/-- The lowercase of a text. -/
def lower (cs : List Char) : List Char := lowerFrom [] [] cs

/-- The lowercase of a string. -/
def lowerString (s : String) : String := .ofList (lower s.toList)

end DocSearch.Text
