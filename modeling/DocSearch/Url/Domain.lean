/-
The ASCII form of domain names. Characters are mapped to those they stand for, labels that are
spelled in ASCII are read, every label is checked, and labels beyond ASCII are spelled again, so
that all spellings of a name have one form.
-/
import DocSearch.Text.Mark
import DocSearch.Text.Normal
import DocSearch.Text.Utf8
import DocSearch.Url.Domain.Bidi
import DocSearch.Url.Domain.Joining
import DocSearch.Url.Domain.Mapping
import DocSearch.Url.Domain.Refused
import DocSearch.Url.Punycode

namespace DocSearch.Url.Domain

/-! ## Mapping -/

/-- The characters that one stands for; none if it has no place in a domain name. -/
def mapChar? (c : Char) : Option (List Char) :=
  if refusedRanges.covers c.toNat then none
  else match mappingTable.run? c.toNat with
    | none => some [c]
    | some run => some ((run.image c.toNat).map Char.ofNat)

/-- A text with its characters mapped, in composed normal form. -/
def mapText? (cs : List Char) : Option (List Char) := do
  some (Text.Normal.form (← cs.mapM mapChar?).flatten)

/-- Whether a character of ASCII may not stand in a domain name. -/
def isForbidden (c : Char) : Bool :=
  c.toNat ≤ 0x20 || c.toNat = 0x7F || "#%/:<>?@[\\]^|".toList.contains c

/-! ## Labels -/

/-- The beginning of a label that is spelled in ASCII. -/
def spellingMark : List Char := ['x', 'n', '-', '-']

/-- The longest spelling that is read. -/
def maxSpelling : Nat := 2000

/-- The longest label that is spelled. -/
def maxSpelled : Nat := 1000

/-- Reads a label: one that is spelled in ASCII must be the spelling of a label that needs it and
that no mapping changes. -/
def readLabel? (label : List Char) : Option (List Char) :=
  if spellingMark.isPrefixOf label then do
    let spelling := label.drop spellingMark.length
    let text ← if spelling.length ≤ maxSpelling then Punycode.decode? spelling else none
    if !text.all Punycode.isAscii ∧ mapText? text = some text then some text else none
  else some label

/-- Writes a label, in ASCII alone. -/
def writeLabel? (label : List Char) : Option (List Char) :=
  if label.all Punycode.isAscii then some label
  else if label.length ≤ maxSpelled then some (spellingMark ++ Punycode.encode label)
  else none

/-- Whether a character joins others to what follows it, as a sign that takes away a vowel. -/
def isVowelless (c : Char) : Bool := Text.Normal.markClass c = 9

/-- Whether an invisible joiner stands where it changes the look of the text: after a sign that
takes away a vowel or, if it separates, between letters that would connect. `before` holds what
comes before, the nearest first. -/
def joinersFit (before : List Char) : List Char → Bool
  | [] => true
  | c :: after =>
    let vowelless := before.head?.any isVowelless
    let connected := (before.find? (!isTransparent ·)).any joinsNext &&
      (after.find? (!isTransparent ·)).any joinsPrevious
    (if c = '\u200C' then vowelless || connected else c ≠ '\u200D' || vowelless) &&
      joinersFit (c :: before) after

/-- Whether a label may stand in a domain name: it does not start with a mark, and its joiners are
where they belong. -/
def isLabel (label : List Char) : Bool := !label.head?.any Text.isMark && joinersFit [] label

/-! ## Names -/

/-- The ASCII form of the name that bytes encode. -/
def toAscii? (bytes : List UInt8) : Option (List Char) := do
  let name ← mapText? (← Text.decode? ⟨bytes.toArray⟩).toList
  if name.any isForbidden then none
  else
    let labels ← (name.splitOn '.').mapM readLabel?
    if labels.all isLabel ∧ (labels.any hasRight → labels.all keepsDirection) then
      some (['.'].intercalate (← labels.mapM writeLabel?))
    else none

end DocSearch.Url.Domain
