/-
The list of documents and where they were fetched from: one line `id url` per document.
-/
import DocSearch.DocId
import DocSearch.Text.Blank
import DocSearch.Text.Lines

namespace DocSearch

open Text

/-- A document and its address as written. -/
structure DocumentEntry where
  doc : DocId
  url : String
  deriving DecidableEq

namespace DocumentEntry

/-- Reads a line: an identifier and an address. Further words are ignored. -/
def read? (line : List Char) : Option DocumentEntry :=
  match words line with
  | id :: url :: _ => (DocId.read? id).map (⟨·, .ofList url⟩)
  | _ => none

/-- The documents that a text lists, in order; lines of any other form are skipped. -/
def listOfText (s : String) : List DocumentEntry := (stringLines s).filterMap read?

end DocumentEntry

end DocSearch
