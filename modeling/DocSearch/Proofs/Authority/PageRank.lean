/-
PageRank over the rational numbers. A round splits the score of every document with links evenly
among the documents that it links to, so counting what is received is counting what is given: the
scores of a round add up to the teleport share and the damped scores of the documents with links.
What documents without links hold is lost, and so the sum never grows beyond where it started, or
beyond one.
-/
import Mathlib.Algebra.BigOperators.Ring.Finset
import Mathlib.Algebra.Order.BigOperators.Group.Finset
import Mathlib.Data.Rat.Cast.Order
import Mathlib.Tactic.FieldSimp
import Mathlib.Tactic.Linarith
import DocSearch.Proofs.Authority.Rounds
import DocSearch.Proofs.Rational

namespace DocSearch

open LinkGraph

namespace Authority

variable {g : LinkGraph} {config : PageRankConfig ℚ} {a : Authority ℚ} {d r : DocId}

/-- The sum of all scores. -/
def total (a : Authority ℚ) : ℚ := (a.toList.map (·.2)).sum

/-- What a round reads for a document: its score, or the initial score if it has none. -/
def readScore (initial : ℚ) (a : Authority ℚ) (d : DocId) : ℚ := (a[d]?).getD initial

/-! ## What a document receives -/

/-- The sum of what the referrers of a document give: each gives all its targets the same share. -/
def received (g : LinkGraph) (initial : ℚ) (a : Authority ℚ) (d : DocId) : ℚ :=
  ∑ r ∈ g.referrerSet d, readScore initial a r / (g.targets r).card

theorem inbound_eq_received (g : LinkGraph) (initial : ℚ) (a : Authority ℚ) (d : DocId) :
    inbound g.outDegrees initial a (g.referrersOf d) = received g initial a d := by
  rw [inbound_eq, Scalar.sum_eq_sum, received, referrerSet, List.sum_toFinset _ (nodup_toList _)]
  rfl

theorem received_nonneg {initial : ℚ} (ha : ∀ r, 0 ≤ readScore initial a r) :
    0 ≤ received g initial a d :=
  Finset.sum_nonneg fun r _ => div_nonneg (ha r) (Nat.cast_nonneg _)

/-- What is received is what is given: a document with links gives its score away, in equal parts,
and one without links gives nothing. -/
theorem sum_received (hg : g.WellFormed) (initial : ℚ) (a : Authority ℚ) :
    ∑ d ∈ g.nodeSet, received g initial a d =
      ∑ r ∈ g.nodeSet with g.HasLink r, readScore initial a r := by
  have hlinks : ∀ d r, d ∈ g.nodeSet ∧ r ∈ g.referrerSet d ↔ d ∈ g.targets r ∧ r ∈ g.nodeSet := by
    intro d r
    rw [mem_nodeSet, mem_nodeSet, mem_referrerSet, mem_targets]
    constructor
    · rintro ⟨-, hr⟩; exact ⟨hr, hg.mem_nodes d r hr⟩
    · rintro ⟨hr, -⟩; exact ⟨mem_nodes_of_mem_referrersOf hr, hr⟩
  unfold received
  rw [Finset.sum_comm' hlinks, Finset.sum_filter]
  refine Finset.sum_congr rfl fun r _ => ?_
  rw [Finset.sum_const, nsmul_eq_mul]
  split
  · rename_i h
    have hcard : ((g.targets r).card : ℚ) ≠ 0 :=
      Nat.cast_ne_zero.2 (Finset.card_ne_zero.2 (targets_nonempty_iff.2 h))
    field_simp
  · rename_i h
    rw [← targets_nonempty_iff, Finset.not_nonempty_iff_eq_empty] at h
    rw [h, Finset.card_empty, Nat.cast_zero, zero_mul]

/-! ## One round -/

/-- The share of every document that does not come along links. -/
def teleport (g : LinkGraph) (damping : ℚ) : ℚ := (1 - damping) / g.numNodes

section Round

variable (hne : g.nodes ≠ [])
include hne

theorem round_eq_map : round g g.outDegrees config a =
    g.referrers.map fun _ refs =>
      teleport g config.damping + config.damping * inbound g.outDegrees config.initial a refs := by
  have hmax : max g.numNodes 1 = g.numNodes := max_eq_left (numNodes_pos hne)
  unfold round
  rw [hmax]
  rfl

theorem getElem?_round_of_mem (hd : d ∈ g.nodes) : (round g g.outDegrees config a)[d]? =
    some (teleport g config.damping + config.damping * received g config.initial a d) := by
  rw [round_eq_map hne, Std.ExtTreeMap.getElem?_map, getElem?_referrers, if_pos hd, Option.map_some,
    inbound_eq_received]

theorem total_round : total (round g g.outDegrees config a) =
    ∑ d ∈ g.nodeSet, (teleport g config.damping + config.damping * received g config.initial a d) := by
  rw [round_eq_map hne, total, Std.ExtTreeMap.toList_map, List.map_map, ← toList,
    toList_eq_map_nodes, List.map_map, nodeSet, List.sum_toFinset _ (nodup_nodes g)]
  refine congrArg List.sum (List.map_congr_left fun d _ => ?_)
  simp only [Function.comp_apply, inbound_eq_received]

theorem sum_teleport (damping : ℚ) : ∑ _d ∈ g.nodeSet, teleport g damping = 1 - damping := by
  have hpos : (g.numNodes : ℚ) ≠ 0 := Nat.cast_ne_zero.2 (numNodes_pos hne).ne'
  rw [Finset.sum_const, card_nodeSet, nsmul_eq_mul, teleport]
  field_simp

/-- The scores of a round add up to the teleport shares and what is given along links. -/
theorem total_round_eq (hg : g.WellFormed) : total (round g g.outDegrees config a) =
    (1 - config.damping) + config.damping *
      ∑ r ∈ g.nodeSet with g.HasLink r, readScore config.initial a r := by
  rw [total_round hne, Finset.sum_add_distrib, sum_teleport hne, ← Finset.mul_sum, sum_received hg]

theorem teleport_le_round (h0 : 0 ≤ config.damping) (ha : ∀ r, 0 ≤ readScore config.initial a r)
    (hd : d ∈ g.nodes) : ∃ x, (round g g.outDegrees config a)[d]? = some x ∧
      teleport g config.damping ≤ x :=
  ⟨_, getElem?_round_of_mem hne hd, le_add_of_nonneg_right (mul_nonneg h0 (received_nonneg ha))⟩

end Round

/-! ## All rounds -/

/-- What the first round reads, and every later one: no negative score, and no more in all than one
or the sum at the start. -/
structure Bounded (g : LinkGraph) (initial : ℚ) (a : Authority ℚ) : Prop where
  nonneg : ∀ d, 0 ≤ readScore initial a d
  sum_le : ∑ d ∈ g.nodeSet, readScore initial a d ≤ max 1 (g.numNodes * initial)

theorem bounded_empty {initial : ℚ} (hi : 0 ≤ initial) : Bounded g initial ∅ where
  nonneg _ := hi
  sum_le := by
    have hread : ∀ d, readScore initial ∅ d = initial := fun _ => rfl
    simp only [hread, Finset.sum_const, card_nodeSet, nsmul_eq_mul]
    exact le_max_right _ _

/-- Documents without links only lower what is given. -/
theorem Bounded.sum_given_le {initial : ℚ} (ha : Bounded g initial a) :
    ∑ r ∈ g.nodeSet with g.HasLink r, readScore initial a r ≤ max 1 (g.numNodes * initial) :=
  (Finset.sum_le_sum_of_subset_of_nonneg (Finset.filter_subset _ _) fun r _ _ => ha.nonneg r).trans
    ha.sum_le

theorem readScore_round (hne : g.nodes ≠ []) (hd : d ∈ g.nodes) :
    readScore config.initial (round g g.outDegrees config a) d =
      teleport g config.damping + config.damping * received g config.initial a d := by
  rw [readScore, getElem?_round_of_mem hne hd, Option.getD_some]

theorem Bounded.total_round_le (hg : g.WellFormed) (hne : g.nodes ≠ []) (h0 : 0 ≤ config.damping)
    (h1 : config.damping ≤ 1) (ha : Bounded g config.initial a) :
    total (round g g.outDegrees config a) ≤ max 1 (g.numNodes * config.initial) := by
  rw [total_round_eq hne hg]
  have hgiven := mul_le_mul_of_nonneg_left ha.sum_given_le h0
  have hone : (1 - config.damping) * 1 ≤ (1 - config.damping) * max 1 (g.numNodes * config.initial) :=
    mul_le_mul_of_nonneg_left (le_max_left _ _) (by linarith)
  linarith

theorem Bounded.round (config : PageRankConfig ℚ) (hg : g.WellFormed) (hne : g.nodes ≠ [])
    (h0 : 0 ≤ config.damping) (h1 : config.damping ≤ 1) (hi : 0 ≤ config.initial)
    (ha : Bounded g config.initial a) :
    Bounded g config.initial (round g g.outDegrees config a) where
  nonneg d := by
    by_cases hd : d ∈ g.nodes
    · rw [readScore_round hne hd, teleport]
      have hteleport : 0 ≤ (1 - config.damping) / g.numNodes :=
        div_nonneg (by linarith) (Nat.cast_nonneg _)
      exact add_nonneg hteleport (mul_nonneg h0 (received_nonneg ha.nonneg))
    · rw [readScore, round_eq_map hne, Std.ExtTreeMap.getElem?_map, getElem?_referrers, if_neg hd]
      exact hi
  sum_le := by
    have htotal := ha.total_round_le hg hne h0 h1
    rw [total_round hne] at htotal
    rwa [Finset.sum_congr rfl fun d hd => readScore_round hne (mem_nodeSet.1 hd)]

theorem bounded_pageRank (hg : g.WellFormed) (hne : g.nodes ≠ []) {damping initial : ℚ}
    (h0 : 0 ≤ damping) (h1 : damping ≤ 1) (hi : 0 ≤ initial) (t : Nat) :
    Bounded g initial (pageRank g ⟨damping, t, initial⟩) := by
  induction t with
  | zero => exact bounded_empty hi
  | succ t ih =>
    rw [pageRank_succ]
    exact Bounded.round ⟨damping, t, initial⟩ hg hne h0 h1 hi ih

/-- From the first round on, every document has a score of at least the teleport share; the scores
add up to the teleport shares of all documents and the damped scores, before the round, of those
with links; and the sum is never more than one or, if that is more, than the sum at the start. -/
theorem pageRank_total (hg : g.Built) (hne : g.nodes ≠ []) {damping initial : ℚ}
    (h0 : 0 ≤ damping) (h1 : damping ≤ 1) (hi : 0 ≤ initial) (t : Nat) :
    (∀ d, d ∈ pageRank g ⟨damping, t + 1, initial⟩ ↔ d ∈ g.nodes) ∧
    (∀ d ∈ g.nodes, ∃ x, (pageRank g ⟨damping, t + 1, initial⟩)[d]? = some x ∧
      (1 - damping) / g.numNodes ≤ x) ∧
    total (pageRank g ⟨damping, t + 1, initial⟩) = (1 - damping) + damping *
      ∑ r ∈ g.nodeSet with g.HasLink r, readScore initial (pageRank g ⟨damping, t, initial⟩) r ∧
    total (pageRank g ⟨damping, t + 1, initial⟩) ≤ max 1 (g.numNodes * initial) := by
  have hwf := hg.wellFormed
  have hbounded := bounded_pageRank hwf hne h0 h1 hi t
  rw [pageRank_succ]
  refine ⟨fun d => mem_round, fun d hd => ?_, ?_, hbounded.total_round_le hwf hne h0 h1⟩
  · exact teleport_le_round hne h0 hbounded.nonneg hd
  · exact total_round_eq hne hwf

/-- Three documents: the third links to both others, the second to the first, which links to none. -/
def chainGraph : LinkGraph := ofText "1:2,3\n2:3\n"

example : total (pageRank chainGraph ⟨17 / 20, 2, 1⟩) = 477 / 800 := by decide +kernel

theorem pageRank_total_chainGraph : chainGraph.Built ∧ chainGraph.nodes ≠ [] ∧
    (∀ d, d ∈ pageRank chainGraph (⟨17 / 20, 2, 1⟩ : PageRankConfig ℚ) ↔ d ∈ chainGraph.nodes) ∧
    (∀ d ∈ chainGraph.nodes, ∃ x, (pageRank chainGraph ⟨17 / 20, 2, 1⟩)[d]? = some x ∧
      ((1 - 17 / 20) / chainGraph.numNodes : ℚ) ≤ x) ∧
    total (pageRank chainGraph ⟨17 / 20, 2, 1⟩) = (1 - 17 / 20) + 17 / 20 *
      ∑ r ∈ chainGraph.nodeSet with chainGraph.HasLink r,
        readScore 1 (pageRank chainGraph ⟨17 / 20, 1, 1⟩) r ∧
    total (pageRank chainGraph ⟨17 / 20, 2, 1⟩) ≤ max 1 (chainGraph.numNodes * 1 : ℚ) := by
  have hne : chainGraph.nodes ≠ [] := by decide +kernel
  have hbuilt : chainGraph.Built := .ofText _
  have h0 : (0 : ℚ) ≤ 17 / 20 := by norm_num
  have h1 : (17 / 20 : ℚ) ≤ 1 := by norm_num
  exact ⟨hbuilt, hne, pageRank_total hbuilt hne h0 h1 zero_le_one 1⟩

end Authority

end DocSearch
