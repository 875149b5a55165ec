/-
Lines of a text. A newline ends a line, together with one carriage return before it; what follows
the last newline is a line of its own unless it is empty, and keeps its carriage return.
-/
namespace DocSearch.Text

/-- Drops one carriage return at the end. -/
def chomp (cs : List Char) : List Char :=
  if cs.getLast? = some '\r' then cs.dropLast else cs

/-- The lines of a text, without their ends. -/
def lines (cs : List Char) : List (List Char) :=
  let pieces := cs.splitOn '\n'
  pieces.dropLast.map chomp ++
    match pieces.getLast? with
    | none | some [] => []
    | some last => [last]

/-- The lines of a string. -/
def stringLines (s : String) : List (List Char) := lines s.toList

/-- A text of the given lines, each ended by a newline. -/
def unlines (ls : List String) : String := String.join (ls.map (· ++ "\n"))

/-- Splits at the first occurrence of `sep`, which must be there. -/
def splitOnce (sep : Char) (cs : List Char) : Option (List Char × List Char) :=
  match cs.dropWhile (· != sep) with
  | [] => none
  | _ :: after => some (cs.takeWhile (· != sep), after)

end DocSearch.Text
