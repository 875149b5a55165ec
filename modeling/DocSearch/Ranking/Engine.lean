/-
Ranked search: every document of a space is scored by the cosine with the query, and the best are
kept. A fused search ranks the best of both spaces by their weighted sum.
-/
import DocSearch.Authority
import DocSearch.Model
import DocSearch.Ranking.Fuse
import DocSearch.Ranking.Select

namespace DocSearch

/-- The constants of ranked search. -/
structure RankingConfig (α : Type) where
  /-- Keeps the cosine away from division by zero. -/
  epsilon : α
  /-- The share of the token space in a fused score. -/
  fusionWeight : α
  /-- How many times more candidates a fused search takes from each space. -/
  candidateFactor : Nat

/-- A model that is searched, with the authority of its documents if there is one. -/
structure Engine (α : Type) where
  model : Model α
  authority : Option (Authority α)
  config : RankingConfig α

/-- What a search is made in: one of the spaces, or both. -/
inductive SearchSpace where
  | single (s : Space)
  | both
  deriving DecidableEq, Repr

namespace Engine

/-- The greatest number of hits that can be asked for. -/
def maxCount : Nat := 0xFFFFFFFFFFFFFFFF

variable {α : Type} [RealScalar α] [Ord α]

/-- Every document of a space with its score for a query. -/
def candidates (e : Engine α) (s : Space) (query : String) : List (Hit α) :=
  let q := e.model.vectorize s query
  (e.model.space s).vectors.toList.map fun d =>
    ⟨d.1, TermVector.cosine d.2 q e.config.epsilon, e.authority.map fun a => a.scoreOf d.1⟩

/-- The best `k` documents of a space, best first. -/
def search (e : Engine α) (s : Space) (query : String) (k : Nat) : List (Hit α) :=
  let hits := e.candidates s query
  Hit.sort (if k < hits.length then Ranking.selectFirst Hit.order k hits else hits)

/-- How many candidates a fused search for `k` hits takes from each space. -/
def fusedWidth (e : Engine α) (k : Nat) : Nat := max (min (k * e.config.candidateFactor) maxCount) k

/-- The best `k` documents by the weighted sum of the scores in both spaces. -/
def searchFused (e : Engine α) (query : String) (k : Nat) : List (Hit α) :=
  let width := e.fusedWidth k
  (Ranking.fuse (e.search .tokens query width) (e.search .lemmas query width)
    e.config.fusionWeight).take k

/-- The best `k` documents in a search space. -/
def searchIn (e : Engine α) (s : SearchSpace) (query : String) (k : Nat) : List (Hit α) :=
  match s with
  | .single s => e.search s query k
  | .both => e.searchFused query k

end Engine

end DocSearch
