/-
The vector model: a term space of tokens, one of lemmas, and the table that expands tokens to
lemmas. A query becomes a vector of one of the spaces.
-/
import DocSearch.LemmaTable
import DocSearch.TermSpace
import DocSearch.Text.Tokens

namespace DocSearch

/-- The two granularities in which documents are weighed. -/
inductive Space where
  | tokens
  | lemmas
  deriving DecidableEq, Repr

/-- Both term spaces and the lemma table. -/
structure Model (α : Type) where
  tokens : TermSpace α
  lemmas : TermSpace α
  table : LemmaTable

namespace Model

variable {α : Type}

/-- One of the two term spaces. -/
def space (m : Model α) : Space → TermSpace α
  | .tokens => m.tokens
  | .lemmas => m.lemmas

/-- The number of documents, which is that of the token space. -/
def totalDocs (m : Model α) : Nat := m.tokens.numDocs

/-- The terms that a token of a query stands for: itself, or in the lemma space the lemmas that the
table lists for it, if it is there. -/
def expansion (m : Model α) (s : Space) (token : String) : List String :=
  match s, m.table[token]? with
  | .lemmas, some ls => ls
  | _, _ => [token]

/-- How often each token occurs. -/
def tokenCounts (ts : List String) : Std.ExtTreeMap String Nat :=
  ts.foldl (fun m t => m.alter t fun n => some (n.getD 0 + 1)) ∅

/-- Counts each of the terms `n` times. A counter has 32 bits: when it is full, it starts from zero
again. -/
def addCounts (counts : Std.ExtTreeMap String UInt32) (n : Nat) (ts : List String) :
    Std.ExtTreeMap String UInt32 :=
  ts.foldl (fun m t => m.alter t fun c => some (c.getD 0 + UInt32.ofNat n)) counts

/-- Counts the terms that the tokens of a query stand for. A token that occurs several times is
expanded once. -/
def queryCounts (m : Model α) (s : Space) (query : String) : Std.ExtTreeMap String UInt32 :=
  (tokenCounts (Text.tokenize query)).toList.foldl
    (fun counts e => addCounts counts e.2 (m.expansion s e.1)) ∅

variable [RealScalar α]

/-- The inverse document frequency of a term that no document has: `ln (n + 1) + 1`, more than that
of any term seen. -/
def unseenIdf (m : Model α) : α :=
  RealScalar.ln (Scalar.ofNat (m.totalDocs + 1)) + Scalar.one

/-- The weight of a term that is counted `count` times in a query. -/
def queryWeight (m : Model α) (s : Space) (term : String) (count : UInt32) : α :=
  (Scalar.one + RealScalar.ln (Scalar.ofNat count.toNat)) * ((m.space s).idf[term]?).getD m.unseenIdf

/-- The vector of a query. -/
def vectorize (m : Model α) (s : Space) (query : String) : TermVector α :=
  (m.queryCounts s query).map fun term count => m.queryWeight s term count

end Model

end DocSearch
