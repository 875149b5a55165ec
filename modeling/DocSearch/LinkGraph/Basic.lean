/-
The graph of links between documents, kept as the set of referrers of every document. No document
refers to itself, and every referrer is a document of the graph.
-/
import Std.Data.ExtTreeMap
import DocSearch.DocSet

namespace DocSearch

/-- The referrers of every document of the graph. -/
structure LinkGraph where
  referrers : Std.ExtTreeMap DocId DocSet

namespace LinkGraph

/-- The graph without documents. -/
def empty : LinkGraph := ⟨∅⟩

/-- Adds a document. -/
def addNode (g : LinkGraph) (doc : DocId) : LinkGraph := ⟨g.referrers.insertIfNew doc ∅⟩

/-- The documents that link to `doc`. -/
def referrersOf (g : LinkGraph) (doc : DocId) : DocSet := (g.referrers[doc]?).getD ∅

/-- Adds a link, and the document it comes from. A link of a document to itself is dropped. -/
def addLink (g : LinkGraph) (source target : DocId) : LinkGraph :=
  let g := g.addNode source
  if source = target then g
  else ⟨g.referrers.insert target ((g.referrersOf target).insert source)⟩

/-- The documents of the graph, ascending. -/
def nodes (g : LinkGraph) : List DocId := g.referrers.keys

/-- The number of documents. -/
def numNodes (g : LinkGraph) : Nat := g.referrers.size

/-- The documents in ascending order, each with its referrers. -/
def toList (g : LinkGraph) : List (DocId × DocSet) := g.referrers.toList

/-- How many documents each document links to; those that link to none are left out. -/
def outDegrees (g : LinkGraph) : Std.ExtTreeMap DocId Nat :=
  g.toList.foldl
    (fun m r => r.2.toList.foldl (fun m d => m.alter d fun n => some (n.getD 0 + 1)) m) ∅

end LinkGraph

end DocSearch
