/-
PageRank as one update, repeated. A round looks scores up that may be missing, counts links in a table
that leaves documents out, and skips what has no links; but every referrer is a document of the graph
and links to something, so nothing is skipped, nothing is divided by zero, and after the first round
nothing is missing. So the rounds are the repetition of an update of all documents at once, whatever
numbers they compute with.
-/
import Mathlib.Logic.Function.Iterate
import DocSearch.Authority
import DocSearch.Proofs.Binary64.Ratio
import DocSearch.Proofs.LinkGraph.Degrees

namespace DocSearch.Authority

open LinkGraph

variable {α : Type} [Scalar α] {g : LinkGraph} {config : PageRankConfig α} {a : Authority α} {d : DocId}

/-- The new score of a document from the scores of all documents: the same share for every document
and, from each of its referrers, in ascending order, the part of its score that each document gets
that the referrer links to. -/
def update (g : LinkGraph) (damping : α) (s : DocId → α) (d : DocId) : α :=
  (Scalar.one - damping) / Scalar.ofNat g.numNodes + damping *
    Scalar.sum ((g.referrersOf d).toList.map fun r => s r / Scalar.ofNat (g.targets r).card)

/-- Only the scores of the referrers are read. -/
theorem update_congr {damping : α} {s s' : DocId → α} (h : ∀ r ∈ g.referrersOf d, s r = s' r) :
    update g damping s d = update g damping s' d := by
  have hparts : ((g.referrersOf d).toList.map fun r => s r / Scalar.ofNat (g.targets r).card) =
      (g.referrersOf d).toList.map fun r => s' r / Scalar.ofNat (g.targets r).card :=
    List.map_congr_left fun r hr => by rw [h r (Std.ExtTreeSet.mem_toList.1 hr)]
  rw [update, hparts, update]

/-! ## One round -/

/-- No referrer is skipped. -/
theorem inbound_eq (g : LinkGraph) (initial : α) (a : Authority α) (d : DocId) :
    inbound g.outDegrees initial a (g.referrersOf d) = Scalar.sum ((g.referrersOf d).toList.map
      fun r => (a[r]?).getD initial / Scalar.ofNat (g.targets r).card) := by
  unfold inbound
  rw [← List.filterMap_eq_map']
  refine congrArg Scalar.sum (List.filterMap_congr fun r hr => ?_)
  have hr := Std.ExtTreeSet.mem_toList.1 hr
  obtain ⟨n, hn⟩ := Nat.exists_eq_succ_of_ne_zero (card_targets_pos hr).ne'
  rw [getElem?_outDegrees_of_mem hr, hn]

theorem mem_round : d ∈ round g g.outDegrees config a ↔ d ∈ g.nodes := by
  rw [round, Std.ExtTreeMap.mem_map, mem_nodes]

theorem getElem?_round (config : PageRankConfig α) (a : Authority α) (d : DocId) :
    (round g g.outDegrees config a)[d]? = if d ∈ g.nodes then
      some (update g config.damping (fun r => (a[r]?).getD config.initial) d) else none := by
  rw [round, Std.ExtTreeMap.getElem?_map, getElem?_referrers]
  split
  · rename_i hd
    rw [Option.map_some, inbound_eq, Nat.max_eq_left (numNodes_pos (List.ne_nil_of_mem hd))]
    rfl
  · rfl

/-! ## All rounds -/

/-- One more round is a round from the scores before it. -/
theorem pageRank_succ (g : LinkGraph) (damping initial : α) (t : Nat) :
    pageRank g ⟨damping, t + 1, initial⟩ =
      round g g.outDegrees ⟨damping, t, initial⟩ (pageRank g ⟨damping, t, initial⟩) := rfl

theorem getElem?_pageRank (hg : g.WellFormed) (damping initial : α) (t : Nat) (d : DocId) :
    (pageRank g ⟨damping, t + 1, initial⟩)[d]? =
      if d ∈ g.nodes then some ((update g damping)^[t + 1] (fun _ => initial) d) else none := by
  induction t generalizing d with
  | zero => rw [pageRank_succ, getElem?_round]; rfl
  | succ t ih =>
    rw [pageRank_succ, getElem?_round, Function.iterate_succ_apply']
    -- the round reads the scores of referrers, which are documents of the graph
    have hread : ∀ r ∈ g.referrersOf d, ((pageRank g ⟨damping, t + 1, initial⟩)[r]?).getD initial =
        (update g damping)^[t + 1] (fun _ => initial) r := fun r hr => by
      rw [ih, if_pos (hg.mem_nodes d r hr), Option.getD_some]
    rw [update_congr hread]

/-- Scores that every document of the graph has leave the initial score unread. -/
theorem round_congr (hg : g.WellFormed) (hall : ∀ d ∈ g.nodes, d ∈ a) {config' : PageRankConfig α}
    (hdamping : config'.damping = config.damping) :
    round g g.outDegrees config' a = round g g.outDegrees config a := by
  refine Std.ExtTreeMap.ext_getElem? fun {d} => ?_
  have hread : ∀ r ∈ g.referrersOf d, (a[r]?).getD config'.initial = (a[r]?).getD config.initial :=
    fun r hr => by
      rw [Std.ExtTreeMap.getElem?_eq_some_getElem (hall r (hg.mem_nodes d r hr)), Option.getD_some,
        Option.getD_some]
  rw [getElem?_round, getElem?_round, hdamping, update_congr hread]

theorem getElem?_linkCounts (g : LinkGraph) (d : DocId) : (linkCounts g : Authority α)[d]? =
    if d ∈ g.nodes then some (Scalar.ofNat (g.referrersOf d).size) else none := by
  rw [linkCounts, Std.ExtTreeMap.getElem?_map, getElem?_referrers]
  split <;> rfl

/-- From the first round on, the documents of the graph and no others have scores, and after `t + 1`
rounds these are what `t + 1` updates make of the initial score of every document. From then on the
initial score is not read, since every referrer has a score; every referrer is in the table of links
with the number of documents that it links to, and that number, like the number of documents, is not
zero where it divides. The numbers in the table add up to those that scoring by link counts gives. -/
theorem pageRank_iterates (hg : g.Built) (damping initial : Binary64) (t : Nat) :
    (∀ d, d ∈ pageRank g ⟨damping, t + 1, initial⟩ ↔ d ∈ g.nodes) ∧
    (∀ d ∈ g.nodes, (pageRank g ⟨damping, t + 1, initial⟩)[d]? =
      some ((update g damping)^[t + 1] (fun _ => initial) d)) ∧
    (∀ d, (g.referrersOf d).toList.Pairwise (· < ·)) ∧
    (∀ other, round g g.outDegrees ⟨damping, t + 1, other⟩ (pageRank g ⟨damping, t + 1, initial⟩) =
      pageRank g ⟨damping, t + 2, initial⟩) ∧
    (∀ d, ∀ r ∈ g.referrersOf d, r ∈ pageRank g ⟨damping, t + 1, initial⟩ ∧
      g.outDegrees[r]? = some (g.targets r).card ∧ 0 < (g.targets r).card ∧
      (Scalar.ofNat (g.targets r).card : Binary64).magnitude ≠ 0) ∧
    (Scalar.ofNat (max g.numNodes 1) : Binary64).magnitude ≠ 0 ∧
    (∀ d ∈ g.nodes, (linkCounts g : Authority Binary64)[d]? =
      some (Scalar.ofNat (g.referrersOf d).size)) ∧
    g.outDegrees.values.sum = (g.nodes.map fun d => (g.referrersOf d).size).sum := by
  have hwf := hg.wellFormed
  have hmem : ∀ d, d ∈ pageRank g ⟨damping, t + 1, initial⟩ ↔ d ∈ g.nodes := fun d => mem_round
  refine ⟨hmem, fun d hd => ?_, pairwise_referrers g, fun other => ?_, fun d r hr => ?_,
    Binary64.magnitude_ofNat_ne_zero (by omega), fun d hd => ?_, sum_outDegrees g⟩
  · rw [getElem?_pageRank hwf, if_pos hd]
  · exact round_congr hwf (fun d hd => (hmem d).2 hd) rfl
  · have hpos := card_targets_pos hr
    exact ⟨(hmem r).2 (hwf.mem_nodes d r hr), getElem?_outDegrees_of_mem hr, hpos,
      Binary64.magnitude_ofNat_ne_zero hpos.ne'⟩
  · rw [getElem?_linkCounts, if_pos hd]

/-- Three documents with links between them, and one that stands alone. -/
def forkGraph : LinkGraph := ((LinkGraph.ofText "1:2,3\n").addLink 3 2).addNode 9

theorem pageRank_iterates_fork :
    let damping := Binary64.ofRatio false 17 20
    let initial := Binary64.ofRatio false 1 100
    forkGraph.Built ∧ forkGraph.nodes = [1, 2, 3, 9] ∧
    (∀ d, d ∈ pageRank forkGraph ⟨damping, 2, initial⟩ ↔ d ∈ forkGraph.nodes) ∧
    (∀ d ∈ forkGraph.nodes, (pageRank forkGraph ⟨damping, 2, initial⟩)[d]? =
      some ((update forkGraph damping)^[2] (fun _ => initial) d)) ∧
    forkGraph.outDegrees.toList = [(2, 1), (3, 2)] ∧
    forkGraph.outDegrees.values.sum =
      (forkGraph.nodes.map fun d => (forkGraph.referrersOf d).size).sum := by
  intro damping initial
  have hbuilt : forkGraph.Built := .addNode _ (.addLink _ _ (.ofText _))
  obtain ⟨hmem, hscores, -, -, -, -, -, hsum⟩ := pageRank_iterates hbuilt damping initial 1
  exact ⟨hbuilt, by decide +kernel, hmem, hscores, by decide +kernel, hsum⟩

end DocSearch.Authority
