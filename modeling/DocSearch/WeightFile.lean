/-
The text form of weight records: one line `term idf tfidf` per record, the numbers with four
fractional digits.
-/
import DocSearch.Binary64.Decimal
import DocSearch.Binary64.Format
import DocSearch.TermSpace
import DocSearch.Text.Blank
import DocSearch.Text.Lines
import DocSearch.Text.Lowercase

namespace DocSearch.WeightFile

open Text

/-- Reads a number that is finite. -/
def finite? (cs : List Char) : Option Binary64 := (Binary64.read? cs).filter (·.isFinite)

/-- Reads a line: a term, which is lowercased, and two finite numbers. Further words are ignored. -/
def readRecord? (line : List Char) : Option (WeightRecord Binary64) :=
  match words line with
  | term :: idf :: tfidf :: _ => do
    some ⟨.ofList (lower term), ← finite? idf, ← finite? tfidf⟩
  | _ => none

/-- The records of a text; lines of any other form are skipped. -/
def ofText (s : String) : List (WeightRecord Binary64) := (stringLines s).filterMap readRecord?

/-- The line of a record. -/
def recordText (term : String) (idf tfidf : Binary64) : String :=
  term ++ " " ++ idf.fixed 4 ++ " " ++ tfidf.fixed 4

/-- The text of records. -/
def text (rs : List (WeightRecord Binary64)) : String :=
  unlines (rs.map fun r => recordText r.term r.idf r.tfidf)

end DocSearch.WeightFile
