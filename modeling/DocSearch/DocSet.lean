/-
Finite sets of documents, listed in ascending order.
-/
import Std.Data.ExtTreeSet
import DocSearch.DocId

namespace DocSearch

/-- A finite set of documents. -/
abbrev DocSet := Std.ExtTreeSet DocId

namespace DocSet

/-- The set of the listed documents. -/
def ofList (ds : List DocId) : DocSet := Std.ExtTreeSet.ofList ds

/-- The documents of a set as text, in ascending order with `sep` between them. -/
def text (sep : String) (s : DocSet) : String := sep.intercalate (s.toList.map DocId.text)

end DocSet

end DocSearch
