/-
The rule for labels in a domain name that has letters written from the right: each label starts with
a letter and keeps to its direction, so that it reads the same wherever it stands.
-/
import DocSearch.Url.Domain.Direction

namespace DocSearch.Url.Domain

/-- Whether a label has a character that is written from the right. -/
def hasRight (label : List Char) : Bool :=
  label.any fun c => direction c = .right || direction c = .arabicNumber

/-- Whether a label keeps to the direction of its first letter and ends in a letter or number of
it. -/
def keepsDirection (label : List Char) : Bool :=
  let all := label.map direction
  let last := all.reverse.find? (· ≠ .mark)
  match all.head? with
  | none => true
  | some .left =>
    [some .left, some .number].contains last && !all.contains .right && !all.contains .arabicNumber
  | some .right =>
    [some .right, some .number, some .arabicNumber].contains last && !all.contains .left &&
      !(all.contains .number && all.contains .arabicNumber)
  | some _ => false

end DocSearch.Url.Domain
