/-
The link graph of stored pages. It is built from the listed documents and the links of the pages, so
it is read back from its text, and entering the listed documents once more changes nothing.
-/
import DocSearch.Anchors
import DocSearch.Proofs.LinkGraph.Reload
import DocSearch.Proofs.Text.Words

namespace DocSearch

open Text

namespace LinkGraph

variable {g : LinkGraph}

/-! ## Documents that are there -/

theorem addNode_of_mem {doc : DocId} (h : doc ∈ g.nodes) : g.addNode doc = g := by
  refine LinkGraph.ext (fun d => ?_) fun d r => by rw [referrersOf_addNode]
  rw [mem_nodes_addNode]
  exact or_iff_right_of_imp fun hd => hd ▸ h

theorem foldl_addNode_of_mem : ∀ {docs : List DocumentEntry}, (∀ d ∈ docs, d.doc ∈ g.nodes) →
    docs.foldl (fun g d => g.addNode d.doc) g = g
  | [], _ => rfl
  | d :: docs, h => by
    obtain ⟨hd, hdocs⟩ := List.forall_mem_cons.1 h
    rw [List.foldl_cons, addNode_of_mem hd]
    exact foldl_addNode_of_mem hdocs

theorem mem_nodes_foldl_addNode {doc : DocId} (docs : List DocumentEntry) (g : LinkGraph) :
    doc ∈ (docs.foldl (fun g d => g.addNode d.doc) g).nodes ↔
      (∃ d ∈ docs, d.doc = doc) ∨ doc ∈ g.nodes :=
  foldl_iff_exists (doc ∈ nodes ·) (fun d : DocumentEntry => d.doc = doc)
    (fun g d => by rw [mem_nodes_addNode, eq_comm]) docs g

theorem Built.foldl_addNode : ∀ (docs : List DocumentEntry) {g : LinkGraph}, g.Built →
    (docs.foldl (fun g d => g.addNode d.doc) g).Built
  | [], _, h => h
  | d :: docs, _, h => Built.foldl_addNode docs (h.addNode d.doc)

/-! ## The text of a graph as a list of documents -/

/-- No line of a graph holds a blank, so none lists a document with its address. -/
theorem listOfText_text (g : LinkGraph) : DocumentEntry.listOfText g.text = [] := by
  rw [DocumentEntry.listOfText, stringLines_text, List.filterMap_eq_nil_iff]
  intro line hline
  obtain ⟨e, -, rfl⟩ := List.mem_map.1 hline
  have hword : IsWord (recordText e.1 e.2).toList :=
    ⟨by rw [toList_recordText]; simp, fun _ => isBlank_of_mem_recordText⟩
  unfold DocumentEntry.read?
  rw [words_of_isWord hword]

end LinkGraph

/-! ## The graph of pages -/

namespace Anchors

open LinkGraph

variable {U : Type} [DecidableEq U] [Address U] {docs : List DocumentEntry} {g : LinkGraph}

/-- A graph that was built and has all listed documents. -/
structure Covers (docs : List DocumentEntry) (g : LinkGraph) : Prop where
  built : g.Built
  mem_nodes : ∀ d ∈ docs, d.doc ∈ g.nodes

namespace Covers

theorem addLink (h : Covers docs g) (source target : DocId) : Covers docs (g.addLink source target) where
  built := h.built.addLink source target
  mem_nodes d hd := mem_nodes_addLink.2 (.inr (.inr (h.mem_nodes d hd)))

theorem addLinks {source : DocId} : ∀ {targets : List DocId} {g : LinkGraph}, Covers docs g →
    Covers docs (targets.foldl (fun g target => g.addLink source target) g)
  | [], _, h => h
  | target :: _, _, h => (h.addLink source target).addLinks

theorem addPage (h : Covers docs g) (known : Directory U) (f : ListedFile) :
    Covers docs (Anchors.addPage known g f) := by
  unfold Anchors.addPage
  split
  · exact h
  · exact h.addLinks

theorem addPages {known : Directory U} : ∀ {pages : List ListedFile} {g : LinkGraph}, Covers docs g →
    Covers docs (pages.foldl (Anchors.addPage known) g)
  | [], _, h => h
  | f :: _, _, h => (h.addPage known f).addPages

end Covers

/-- Pages add links to the listed documents and take none of them away. -/
theorem covers_linkGraph (pages : List ListedFile) (docs : List DocumentEntry) :
    Covers docs (linkGraph pages docs U) :=
  Covers.addPages
    ⟨Built.foldl_addNode docs .empty, fun d hd => (mem_nodes_foldl_addNode _ _).2 (.inl ⟨d, hd, rfl⟩)⟩

end Anchors

end DocSearch
