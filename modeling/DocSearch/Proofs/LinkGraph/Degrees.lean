/-
Outgoing links. The referrers of all documents are counted, so the number that a document has in
the table is the number of documents that it links to, and it is not in the table if it links
to none. What all documents have there is the number of links, as is what all have referrers.
-/
import Mathlib.Algebra.BigOperators.Group.Finset.Piecewise
import DocSearch.Proofs.Inserts
import DocSearch.Proofs.LinkGraph.Links

namespace DocSearch.LinkGraph

variable {g : LinkGraph} {d r : DocId}

theorem nodup_nodes (g : LinkGraph) : g.nodes.Nodup := Std.ExtTreeMap.nodup_keys

theorem length_nodes (g : LinkGraph) : g.nodes.length = g.numNodes := Std.ExtTreeMap.length_keys

theorem numNodes_pos (h : g.nodes ≠ []) : 0 < g.numNodes := by
  rw [← length_nodes]
  exact List.length_pos_iff.2 h

/-- Referrers are listed in ascending order. -/
theorem pairwise_referrers (g : LinkGraph) (d : DocId) : (g.referrersOf d).toList.Pairwise (· < ·) :=
  Std.ExtTreeSet.ordered_toList.imp Std.compare_eq_lt.1

/-- The documents of a graph. -/
def nodeSet (g : LinkGraph) : Finset DocId := g.nodes.toFinset

/-- The documents that a document links to. -/
def targets (g : LinkGraph) (r : DocId) : Finset DocId := g.nodeSet.filter (r ∈ g.referrersOf ·)

@[simp] theorem mem_nodeSet : d ∈ g.nodeSet ↔ d ∈ g.nodes := List.mem_toFinset

theorem card_nodeSet (g : LinkGraph) : g.nodeSet.card = g.numNodes := by
  rw [nodeSet, List.toFinset_card_of_nodup (nodup_nodes g), length_nodes]

theorem mem_targets : d ∈ g.targets r ↔ r ∈ g.referrersOf d := by
  rw [targets, Finset.mem_filter, mem_nodeSet]
  exact and_iff_right_of_imp mem_nodes_of_mem_referrersOf

/-- Whether a document has an outgoing link. -/
def HasLink (g : LinkGraph) (r : DocId) : Prop := ∃ d, r ∈ g.referrersOf d

theorem targets_nonempty_iff : (g.targets r).Nonempty ↔ g.HasLink r :=
  exists_congr fun _ => mem_targets

instance : DecidablePred g.HasLink := fun _ => decidable_of_iff _ targets_nonempty_iff

theorem toList_eq_map_nodes (g : LinkGraph) :
    g.toList = g.nodes.map fun d => (d, g.referrersOf d) := by
  rw [nodes, ← Std.ExtTreeMap.map_fst_toList_eq_keys, List.map_map]
  refine (List.map_id g.toList).symm.trans (List.map_congr_left fun ⟨d, refs⟩ he => ?_)
  obtain ⟨-, rfl⟩ := mem_toList.1 he
  rfl

/-- The referrers of a document. -/
def referrerSet (g : LinkGraph) (d : DocId) : Finset DocId := (g.referrersOf d).toList.toFinset

theorem mem_referrerSet : r ∈ g.referrerSet d ↔ r ∈ g.referrersOf d := by
  rw [referrerSet, List.mem_toFinset, Std.ExtTreeSet.mem_toList]

theorem count_referrers (g : LinkGraph) (r : DocId) :
    (g.toList.flatMap fun e => e.2.toList).count r = (g.targets r).card := by
  rw [toList_eq_map_nodes, List.flatMap_map, List.count_flatMap, targets, Finset.card_filter, nodeSet,
    List.sum_toFinset _ (nodup_nodes g)]
  simp only [Function.comp_def, count_toList]

theorem getElem?_outDegrees (g : LinkGraph) (r : DocId) : g.outDegrees[r]? =
    if (g.targets r).card = 0 then none else some (g.targets r).card := by
  rw [outDegrees, ← List.foldl_flatMap, getElem?_foldl_count_empty, count_referrers]
  simp only [← count_referrers, List.count_eq_zero]
  rw [ite_not]

theorem card_targets_pos (h : r ∈ g.referrersOf d) : 0 < (g.targets r).card :=
  Finset.card_pos.2 ⟨d, mem_targets.2 h⟩

/-- A referrer is in the table, as it links to something. -/
theorem getElem?_outDegrees_of_mem (h : r ∈ g.referrersOf d) :
    g.outDegrees[r]? = some (g.targets r).card := by
  rw [getElem?_outDegrees, if_neg (card_targets_pos h).ne']

theorem sum_outDegrees (g : LinkGraph) :
    g.outDegrees.values.sum = (g.nodes.map fun d => (g.referrersOf d).size).sum := by
  rw [outDegrees, ← List.foldl_flatMap, sum_values_foldl_count, toList_eq_map_nodes, List.flatMap_map,
    List.length_flatMap]
  simp only [Std.ExtTreeSet.length_toList]

end DocSearch.LinkGraph
