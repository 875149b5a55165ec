/-
The lemmas of surface tokens, and the text form of that table: one line `token lemma lemma ...` per
token.
-/
import Std.Data.ExtTreeMap
import DocSearch.Text.Blank
import DocSearch.Text.Lines
import DocSearch.Text.Lowercase

namespace DocSearch

open Text

/-- The lemmas that a token expands to, in the order they are listed. -/
abbrev LemmaTable := Std.ExtTreeMap String (List String)

namespace LemmaTable

/-- Reads a line: a token and at least one lemma, all lowercased word by word. -/
def readRecord? (line : List Char) : Option (String × List String) :=
  match (words line).map fun w => String.ofList (lower w) with
  | token :: l :: ls => some (token, l :: ls)
  | _ => none

/-- Stores the record of a line, if it holds one. -/
def insertLine (t : LemmaTable) (line : List Char) : LemmaTable :=
  match readRecord? line with
  | some (token, lemmas) => t.insert token lemmas
  | none => t

/-- The table that a text describes; a later line for a token replaces an earlier one. -/
def ofText (s : String) : LemmaTable := (stringLines s).foldl insertLine ∅

/-- The line of a token. -/
def recordText (token : String) (lemmas : List String) : String :=
  token ++ " " ++ " ".intercalate lemmas

/-- The text of a table, tokens in ascending order. -/
def text (t : LemmaTable) : String := unlines (t.toList.map fun r => recordText r.1 r.2)

end LemmaTable

end DocSearch
