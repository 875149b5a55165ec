/-
The tokens of a boolean query: parentheses, the three operators and words. A query is lowercased as
a whole; a parenthesis is a token of its own, all else is cut at white space.
-/
import DocSearch.Text.Blank
import DocSearch.Text.Lowercase

namespace DocSearch.BoolQuery

open Text

/-- The operators; each takes two operands. -/
inductive Operator where
  | and
  | or
  | exclude
  deriving DecidableEq, Repr

/-- A token of a query. -/
inductive Token where
  | opening
  | closing
  | operator (op : Operator)
  | word (w : String)
  deriving DecidableEq, Repr

/-- Sets a parenthesis off with blanks. -/
def spaceOut (c : Char) : List Char := if c = '(' ∨ c = ')' then [' ', c, ' '] else [c]

/-- The words of a query, parentheses among them. -/
def queryWords (query : String) : List String :=
  (words ((lower query.toList).flatMap spaceOut)).map .ofList

/-- The token that a word of a query is. -/
def Token.ofWord (w : String) : Token :=
  if w = "(" then .opening
  else if w = ")" then .closing
  else if w = "and" then .operator .and
  else if w = "or" then .operator .or
  else if w = "not" then .operator .exclude
  else .word w

/-- The tokens of a query. -/
def tokens (query : String) : List Token := (queryWords query).map Token.ofWord

end DocSearch.BoolQuery
