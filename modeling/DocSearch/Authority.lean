/-
Scores of documents that do not depend on a query: the number of referrers, or PageRank with a
fixed number of rounds.
-/
import DocSearch.LinkGraph.Basic
import DocSearch.Scalar

namespace DocSearch

/-- The scores of the documents that have one. -/
abbrev Authority (α : Type) := Std.ExtTreeMap DocId α

/-- What PageRank is computed with. -/
structure PageRankConfig (α : Type) where
  /-- The share of a score that is passed along links. -/
  damping : α
  /-- The number of rounds. -/
  rounds : Nat
  /-- What the first round reads for every document. -/
  initial : α

namespace Authority

variable {α : Type} [Scalar α]

/-- The score of a document; one without a score has zero. -/
def scoreOf (a : Authority α) (doc : DocId) : α := (a[doc]?).getD Scalar.zero

/-- The scores of a list of pairs; a later score of a document replaces an earlier one. -/
def ofScores (ss : List (DocId × α)) : Authority α := ss.foldl (fun a s => a.insert s.1 s.2) ∅

/-- Scores every document by the number of its referrers. -/
def linkCounts (g : LinkGraph) : Authority α :=
  g.referrers.map fun _ refs => Scalar.ofNat refs.size

/-- What a document receives in a round: from each referrer, ascending, its score divided by the
number of documents it links to. A referrer that links to none gives nothing. -/
def inbound (out : Std.ExtTreeMap DocId Nat) (initial : α) (scores : Authority α)
    (refs : DocSet) : α :=
  Scalar.sum <| refs.toList.filterMap fun r =>
    match out[r]? with
    | some (n + 1) => some ((scores[r]?).getD initial / Scalar.ofNat (n + 1))
    | _ => none

/-- One round: every document's new score from the scores of the round before. -/
def round (g : LinkGraph) (out : Std.ExtTreeMap DocId Nat) (config : PageRankConfig α)
    (scores : Authority α) : Authority α :=
  let teleport := (Scalar.one - config.damping) / Scalar.ofNat (max g.numNodes 1)
  g.referrers.map fun _ refs => teleport + config.damping * inbound out config.initial scores refs

/-- The scores after the configured number of rounds, starting from none. -/
def pageRank (g : LinkGraph) (config : PageRankConfig α) : Authority α :=
  let out := g.outDegrees
  config.rounds.repeat (round g out config) ∅

end Authority

end DocSearch
