/-
The constants that search runs with unless told otherwise.
-/
import DocSearch.Binary64.Round
import DocSearch.Ranking.Engine

namespace DocSearch

/-- Fused scores weigh both spaces alike and take four times as many candidates as hits. -/
def RankingConfig.standard : RankingConfig Binary64 where
  epsilon := .ofRatio false 1 10_000_000_000
  fusionWeight := .ofRatio false 1 2
  candidateFactor := 4

/-- A hundred rounds that pass on 85 percent of a score, from one percent each. -/
def PageRankConfig.standard : PageRankConfig Binary64 where
  damping := .ofRatio false 85 100
  rounds := 100
  initial := .ofRatio false 1 100

/-- The number of hits of a ranked search. -/
def defaultTopK : Nat := 10

end DocSearch
