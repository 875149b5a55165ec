/-
The infix form of boolean queries: chains with `or` between them, a chain being atoms that are tied
by `and`, `not` or `and not`, and an atom a word or an expression in parentheses. An expression has
its tokens and its meaning, neither of which needs the stacks of an evaluation.
-/
import DocSearch.BoolQuery.Token
import DocSearch.DocSet

namespace DocSearch.BoolQuery

/-- How an atom is tied to the chain before it. -/
inductive Link where
  | and
  | not
  | andNot
  deriving DecidableEq, Repr

/-- The parts of an infix expression. -/
inductive Infix.Part where
  | atom
  | chain
  | expr
  deriving DecidableEq, Repr

/-- Infix expressions and their parts. -/
inductive Infix : Infix.Part → Type where
  | word (w : String) : Infix .atom
  | group (e : Infix .expr) : Infix .atom
  | first (a : Infix .atom) : Infix .chain
  | tied (c : Infix .chain) (l : Link) (a : Infix .atom) : Infix .chain
  | only (c : Infix .chain) : Infix .expr
  | either (e : Infix .expr) (c : Infix .chain) : Infix .expr
  deriving Repr

/-- The tokens of a link. -/
def Link.tokens : Link → List Token
  | .and => [.operator .and]
  | .not => [.operator .exclude]
  | .andNot => [.operator .and, .operator .exclude]

namespace Infix

/-- The tokens of an expression or a part of one. -/
def tokens {part : Part} : Infix part → List Token
  | .word w => [.word w]
  | .group e => .opening :: (e.tokens ++ [.closing])
  | .first a => a.tokens
  | .tied c l a => c.tokens ++ (l.tokens ++ a.tokens)
  | .only c => c.tokens
  | .either e c => e.tokens ++ .operator .or :: c.tokens

/-- Whether a document is one that an expression asks for, where `resolve` gives the documents of a
word: it is in some chain, that is in its first atom and in each atom after an `and`, and in no atom
after a `not`. -/
def Selects {part : Part} (resolve : String → DocSet) (d : DocId) : Infix part → Prop
  | .word w => d ∈ resolve w
  | .group e => e.Selects resolve d
  | .first a => a.Selects resolve d
  | .tied c .and a => c.Selects resolve d ∧ a.Selects resolve d
  | .tied c .not a => c.Selects resolve d ∧ ¬ a.Selects resolve d
  | .tied c .andNot a => c.Selects resolve d ∧ ¬ a.Selects resolve d
  | .only c => c.Selects resolve d
  | .either e c => e.Selects resolve d ∨ c.Selects resolve d

end Infix

end DocSearch.BoolQuery
