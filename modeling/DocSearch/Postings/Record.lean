/-
The text form of an inverted index: one line `term:id,id,...` per term. A line of any other form is
skipped as a whole; a later line for a term replaces the earlier one.
-/
import DocSearch.Postings.Basic
import DocSearch.Text.Blank
import DocSearch.Text.Lines

namespace DocSearch.Postings

open Text

/-- Reads a line: a term, one colon, and identifiers between commas with blanks around them. -/
def readRecord? (line : List Char) : Option (String × DocSet) := do
  let (term, ids) ← splitOnce ':' line
  if term.isEmpty ∨ ':' ∈ ids then none
  else
    let docs ← (ids.splitOn ',').mapM fun id => DocId.read? (trim id)
    some (.ofList term, DocSet.ofList docs)

/-- Stores the record of a line, if it holds one. -/
def insertLine (p : Postings) (line : List Char) : Postings :=
  match readRecord? line with
  | some (term, docs) => p.insert term docs
  | none => p

/-- The index that a text describes. -/
def ofText (s : String) : Postings := (stringLines s).foldl insertLine empty

/-- The line of a term. -/
def recordText (term : String) (docs : DocSet) : String := term ++ ":" ++ docs.text ","

/-- The text of an index, terms in ascending order. -/
def text (p : Postings) : String := unlines (p.toList.map fun r => recordText r.1 r.2)

end DocSearch.Postings
