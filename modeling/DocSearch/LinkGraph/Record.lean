/-
The text form of a link graph: one line `id:id,id,...` per document, its referrers after the colon.
A document without referrers has a line of its own, and several lines of a document add up.
-/
import DocSearch.LinkGraph.Basic
import DocSearch.Text.Blank
import DocSearch.Text.Lines

namespace DocSearch.LinkGraph

open Text

/-- Reads a line: an identifier, a colon, and identifiers between commas. Blanks may stand around
every identifier, and an item may be missing. -/
def readRecord? (line : List Char) : Option (DocId × List DocId) := do
  let (doc, refs) ← splitOnce ':' (trim line)
  let doc ← DocId.read? (trim doc)
  let items := (((refs.splitOn ',').map trim).filter (!·.isEmpty))
  let refs ← items.mapM DocId.read?
  some (doc, refs)

/-- Adds the links of a line, if it holds a record. -/
def addLine (g : LinkGraph) (line : List Char) : LinkGraph :=
  match readRecord? line with
  | some (doc, refs) => (refs.foldl (fun g r => g.addLink r doc) g).addNode doc
  | none => g

/-- The graph that a text describes. -/
def ofText (s : String) : LinkGraph := (stringLines s).foldl addLine empty

/-- The line of a document. -/
def recordText (doc : DocId) (refs : DocSet) : String := doc.text ++ ":" ++ refs.text ","

/-- The text of a graph, documents in ascending order. -/
def text (g : LinkGraph) : String := unlines (g.toList.map fun r => recordText r.1 r.2)

end DocSearch.LinkGraph
