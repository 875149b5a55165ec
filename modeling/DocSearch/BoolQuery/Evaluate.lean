/-
Evaluation of boolean queries with a stack of operands and a stack of pending operators and
parentheses. Exclusion binds tightest, then `and`, then `or`; operators of one strength apply from
the left. `a and not b` is the one exclusion `a not b`.
-/
import DocSearch.BoolQuery.Token
import DocSearch.Postings.Basic

namespace DocSearch.BoolQuery

/-- How tightly an operator binds. -/
def Operator.strength : Operator → Nat
  | .exclude => 3
  | .and => 2
  | .or => 1

/-- The name of an operator in messages. -/
def Operator.name : Operator → String
  | .and => "AND"
  | .or => "OR"
  | .exclude => "NOT"

/-- The documents that an operator selects from its left and right operand. -/
def Operator.apply : Operator → DocSet → DocSet → DocSet
  | .and, a, b => a ∩ b
  | .or, a, b => a ∪ b
  | .exclude, a, b => a \ b

/-- Why a query has no answer. -/
inductive QueryError where
  | emptyExpression
  | missingOperand (op : Operator)
  | unbalancedParenthesis
  | missingOperator
  deriving DecidableEq, Repr

/-- The text of an error. -/
def QueryError.message : QueryError → String
  | .emptyExpression => "empty expression"
  | .missingOperand op => "operator '" ++ op.name ++ "' is missing an operand"
  | .unbalancedParenthesis => "unbalanced parentheses"
  | .missingOperator => "missing operator between operands"

/-- What waits for its right operand or its closing parenthesis. -/
inductive Pending where
  | paren
  | operator (op : Operator)
  deriving DecidableEq, Repr

/-- The two stacks, topmost first, and whether the last token was an `and`. -/
structure State where
  operands : List DocSet
  pending : List Pending
  afterAnd : Bool

/-- Applies an operator to the two topmost operands. -/
def reduce (op : Operator) : List DocSet → Except QueryError (List DocSet)
  | b :: a :: rest => .ok (op.apply a b :: rest)
  | _ => .error (.missingOperand op)

/-- Applies the pending operators down to the last open parenthesis, and closes it. -/
def closeParen (operands : List DocSet) :
    List Pending → Except QueryError (List DocSet × List Pending)
  | [] => .error .unbalancedParenthesis
  | .paren :: rest => .ok (operands, rest)
  | .operator op :: rest => do closeParen (← reduce op operands) rest

/-- Applies the topmost pending operators that bind at least as tightly as `op`. -/
def applyTighter (op : Operator) (operands : List DocSet) :
    List Pending → Except QueryError (List DocSet × List Pending)
  | .operator top :: rest =>
    if top.strength < op.strength then .ok (operands, .operator top :: rest)
    else do applyTighter op (← reduce top operands) rest
  | pending => .ok (operands, pending)

/-- Applies all pending operators at the end of a query. -/
def applyAll (operands : List DocSet) : List Pending → Except QueryError (List DocSet)
  | [] => .ok operands
  | .paren :: _ => .error .unbalancedParenthesis
  | .operator op :: rest => do applyAll (← reduce op operands) rest

/-- Takes one token. -/
def step (resolve : String → DocSet) (s : State) : Token → Except QueryError State
  | .opening => .ok { s with pending := .paren :: s.pending, afterAnd := false }
  | .closing => do
    let (operands, pending) ← closeParen s.operands s.pending
    .ok ⟨operands, pending, false⟩
  | .operator op =>
    if op = .exclude ∧ s.afterAnd then
      .ok { s with pending := .operator .exclude :: s.pending.tail, afterAnd := false }
    else do
      let (operands, pending) ← applyTighter op s.operands s.pending
      .ok ⟨operands, .operator op :: pending, op = .and⟩
  | .word w => .ok { s with operands := resolve w :: s.operands, afterAnd := false }

/-- The single operand that is left at the end of a query. -/
def answer : List DocSet → Except QueryError DocSet
  | [] => .error .emptyExpression
  | [result] => .ok result
  | _ => .error .missingOperator

/-- Evaluates a list of tokens, where `resolve` gives the documents of a word. -/
def evaluateTokens (resolve : String → DocSet) (ts : List Token) : Except QueryError DocSet := do
  let s ← ts.foldlM (step resolve) ⟨[], [], false⟩
  answer (← applyAll s.operands s.pending)

/-- The word that `not` is glued to, if it is glued to one. -/
def negated? (w : String) : Option String :=
  match w.toList with
  | 'n' :: 'o' :: 't' :: c :: rest => some (.ofList (c :: rest))
  | _ => none

/-- The documents of a word; with a glued `not`, all documents seen but those of the rest. -/
def resolve (p : Postings) (w : String) : DocSet :=
  match negated? w with
  | some term => p.seen \ p.docs term
  | none => p.docs w

/-- The documents that a query selects. -/
def evaluate (p : Postings) (query : String) : Except QueryError DocSet :=
  evaluateTokens (resolve p) (tokens query)

end DocSearch.BoolQuery
