/-
Documents and links of a graph. A graph is its documents and its links, every operation is known
by the documents and links that it adds, and so is reading a text. However a graph was built, no
document refers to itself and every referrer is a document of the graph.
-/
import DocSearch.LinkGraph.Record
import DocSearch.Proofs.Inserts

namespace DocSearch.LinkGraph

open Text

variable {g g' : LinkGraph} {d r n : DocId}

/-! ## Graphs by their documents and links -/

theorem mem_nodes : d ∈ g.nodes ↔ d ∈ g.referrers := Std.ExtTreeMap.mem_keys

theorem getElem?_referrers :
    g.referrers[d]? = if d ∈ g.nodes then some (g.referrersOf d) else none := by
  split
  · rename_i h
    rw [referrersOf, Std.ExtTreeMap.getElem?_eq_some_getElem (mem_nodes.1 h), Option.getD_some]
  · rename_i h
    exact Std.ExtTreeMap.getElem?_eq_none fun hd => h (mem_nodes.2 hd)

theorem ext (hn : ∀ d, d ∈ g.nodes ↔ d ∈ g'.nodes)
    (hr : ∀ d r, r ∈ g.referrersOf d ↔ r ∈ g'.referrersOf d) : g = g' := by
  obtain ⟨m⟩ := g
  obtain ⟨m'⟩ := g'
  congr 1
  refine Std.ExtTreeMap.ext_getElem? fun {d} => ?_
  have hset := Std.ExtTreeSet.ext_mem (hr d)
  have h := getElem?_referrers (g := ⟨m⟩) (d := d)
  have h' := getElem?_referrers (g := ⟨m'⟩) (d := d)
  simp only [hn d, hset] at h
  exact h.trans h'.symm

/-- Only a document of the graph has referrers. -/
theorem mem_nodes_of_mem_referrersOf (h : r ∈ g.referrersOf d) : d ∈ g.nodes := by
  by_cases hd : d ∈ g.nodes
  · exact hd
  · rw [referrersOf, getElem?_referrers, if_neg hd] at h
    exact absurd h Std.ExtTreeSet.not_mem_empty

theorem mem_toList {refs : DocSet} :
    (d, refs) ∈ g.toList ↔ d ∈ g.nodes ∧ refs = g.referrersOf d := by
  rw [toList, Std.ExtTreeMap.mem_toList_iff_getElem?_eq_some, getElem?_referrers]
  split
  · rename_i h
    rw [Option.some.injEq, eq_comm]
    exact (and_iff_right h).symm
  · rename_i h
    exact iff_of_false nofun fun hd => h hd.1

/-! ## Adding documents and links -/

theorem mem_nodes_insert {refs : DocSet} :
    d ∈ (LinkGraph.mk (g.referrers.insert n refs)).nodes ↔ d = n ∨ d ∈ g.nodes := by
  rw [mem_nodes, Std.ExtTreeMap.mem_insert, Std.compare_eq_iff_eq, mem_nodes, eq_comm]

theorem referrersOf_insert {refs : DocSet} :
    (LinkGraph.mk (g.referrers.insert n refs)).referrersOf d =
      if d = n then refs else g.referrersOf d := by
  unfold referrersOf
  simp only [Std.ExtTreeMap.getElem?_insert, Std.compare_eq_iff_eq]
  by_cases h : d = n
  · rw [if_pos h.symm, if_pos h, Option.getD_some]
  · rw [if_neg (Ne.symm h), if_neg h]

@[simp] theorem mem_nodes_addNode : d ∈ (g.addNode n).nodes ↔ d = n ∨ d ∈ g.nodes := by
  rw [mem_nodes, addNode, Std.ExtTreeMap.mem_insertIfNew, Std.compare_eq_iff_eq, mem_nodes, eq_comm]

@[simp] theorem referrersOf_addNode : (g.addNode n).referrersOf d = g.referrersOf d := by
  unfold referrersOf addNode
  simp only [Std.ExtTreeMap.getElem?_insertIfNew, Std.compare_eq_iff_eq]
  split
  · rename_i h
    obtain ⟨rfl, hn⟩ := h
    rw [Std.ExtTreeMap.getElem?_eq_none hn]
    rfl
  · rfl

/-- A link of a document to itself adds that document. -/
theorem addLink_self : g.addLink n n = g.addNode n := if_pos rfl

theorem addLink_of_ne (h : r ≠ n) : g.addLink r n =
    ⟨(g.addNode r).referrers.insert n ((g.referrersOf n).insert r)⟩ := by
  rw [addLink, if_neg h, referrersOf_addNode]

@[simp] theorem mem_nodes_addLink : d ∈ (g.addLink r n).nodes ↔ d = r ∨ d = n ∨ d ∈ g.nodes := by
  by_cases h : r = n
  · rw [h, addLink_self, mem_nodes_addNode]
    simp
  · rw [addLink_of_ne h, mem_nodes_insert, mem_nodes_addNode, or_left_comm]

@[simp] theorem mem_referrersOf_addLink {x : DocId} :
    x ∈ (g.addLink r n).referrersOf d ↔ (x = r ∧ d = n ∧ r ≠ n) ∨ x ∈ g.referrersOf d := by
  by_cases h : r = n
  · rw [h, addLink_self, referrersOf_addNode]
    simp
  · rw [addLink_of_ne h, referrersOf_insert]
    by_cases hd : d = n
    · rw [if_pos hd, Std.ExtTreeSet.mem_insert, Std.compare_eq_iff_eq, hd, eq_comm]
      simp [h]
    · rw [if_neg hd, referrersOf_addNode]
      simp [hd]

/-! ## Reading a text -/

/-- Adds the links of a record, and its document. -/
def addRecord (g : LinkGraph) (e : DocId × List DocId) : LinkGraph :=
  (e.2.foldl (fun g r => g.addLink r e.1) g).addNode e.1

/-- The records of a text, in order. -/
def records (s : String) : List (DocId × List DocId) := (stringLines s).filterMap readRecord?

theorem ofText_eq_foldl (s : String) : ofText s = (records s).foldl addRecord empty := by
  rw [records, List.foldl_filterMap, ofText]
  congr 1
  funext g line
  unfold addLine
  cases readRecord? line <;> rfl

section Record

variable {doc : DocId}

theorem mem_nodes_addLinks (refs : List DocId) (g : LinkGraph) :
    d ∈ (refs.foldl (fun g r => g.addLink r doc) g).nodes ↔
      (∃ r ∈ refs, d = r ∨ d = doc) ∨ d ∈ g.nodes :=
  foldl_iff_exists (d ∈ nodes ·) (fun r => d = r ∨ d = doc)
    (fun _ _ => mem_nodes_addLink.trans or_assoc.symm) refs g

theorem mem_referrersOf_addLinks (refs : List DocId) (g : LinkGraph) :
    r ∈ (refs.foldl (fun g r => g.addLink r doc) g).referrersOf d ↔
      (∃ x ∈ refs, r = x ∧ d = doc ∧ x ≠ doc) ∨ r ∈ g.referrersOf d :=
  foldl_iff_exists (r ∈ referrersOf · d) (fun x => r = x ∧ d = doc ∧ x ≠ doc)
    (fun _ _ => mem_referrersOf_addLink) refs g

@[simp] theorem mem_nodes_addRecord {e : DocId × List DocId} :
    d ∈ (g.addRecord e).nodes ↔ (d = e.1 ∨ d ∈ e.2) ∨ d ∈ g.nodes := by
  rw [addRecord, mem_nodes_addNode, mem_nodes_addLinks]
  grind

@[simp] theorem mem_referrersOf_addRecord {e : DocId × List DocId} :
    r ∈ (g.addRecord e).referrersOf d ↔ (d = e.1 ∧ r ∈ e.2 ∧ r ≠ d) ∨ r ∈ g.referrersOf d := by
  rw [addRecord, referrersOf_addNode, mem_referrersOf_addLinks]
  refine or_congr_left ?_
  constructor
  · rintro ⟨x, hx, rfl, rfl, hne⟩; exact ⟨rfl, hx, hne⟩
  · rintro ⟨rfl, hr, hne⟩; exact ⟨r, hr, rfl, rfl, hne⟩

end Record

theorem mem_nodes_addRecords (es : List (DocId × List DocId)) (g : LinkGraph) :
    d ∈ (es.foldl addRecord g).nodes ↔ (∃ e ∈ es, d = e.1 ∨ d ∈ e.2) ∨ d ∈ g.nodes :=
  foldl_iff_exists (d ∈ nodes ·) (fun e => d = e.1 ∨ d ∈ e.2) (fun _ _ => mem_nodes_addRecord) es g

theorem mem_referrersOf_addRecords (es : List (DocId × List DocId)) (g : LinkGraph) :
    r ∈ (es.foldl addRecord g).referrersOf d ↔
      (∃ e ∈ es, d = e.1 ∧ r ∈ e.2 ∧ r ≠ d) ∨ r ∈ g.referrersOf d :=
  foldl_iff_exists (r ∈ referrersOf · d) (fun e => d = e.1 ∧ r ∈ e.2 ∧ r ≠ d)
    (fun _ _ => mem_referrersOf_addRecord) es g

theorem notMem_nodes_empty : d ∉ empty.nodes := fun h =>
  Std.ExtTreeMap.not_mem_empty (mem_nodes.1 h)

theorem notMem_referrersOf_empty : r ∉ empty.referrersOf d := fun h =>
  notMem_nodes_empty (mem_nodes_of_mem_referrersOf h)

/-- The documents of a text are those on either side of a record. -/
theorem mem_nodes_ofText {s : String} : d ∈ (ofText s).nodes ↔ ∃ e ∈ records s, d = e.1 ∨ d ∈ e.2 := by
  rw [ofText_eq_foldl, mem_nodes_addRecords]
  exact or_iff_left notMem_nodes_empty

/-- The referrers of a document of a text are those of all its records, without itself. -/
theorem mem_referrersOf_ofText {s : String} :
    r ∈ (ofText s).referrersOf d ↔ ∃ e ∈ records s, d = e.1 ∧ r ∈ e.2 ∧ r ≠ d := by
  rw [ofText_eq_foldl, mem_referrersOf_addRecords]
  exact or_iff_left notMem_referrersOf_empty

/-! ## Building a graph -/

/-- No document refers to itself, and every referrer is a document of the graph. -/
structure WellFormed (g : LinkGraph) : Prop where
  irrefl : ∀ d, d ∉ g.referrersOf d
  mem_nodes : ∀ d r, r ∈ g.referrersOf d → r ∈ g.nodes

/-- The graphs that reading texts, adding documents and adding links build. -/
inductive Built : LinkGraph → Prop
  | empty : Built .empty
  | ofText (s : String) : Built (ofText s)
  | addNode {g : LinkGraph} (doc : DocId) : Built g → Built (g.addNode doc)
  | addLink {g : LinkGraph} (source target : DocId) : Built g → Built (g.addLink source target)

namespace WellFormed

theorem addNode (h : g.WellFormed) (doc : DocId) : (g.addNode doc).WellFormed where
  irrefl d := by rw [referrersOf_addNode]; exact h.irrefl d
  mem_nodes d r hr := by
    rw [referrersOf_addNode] at hr
    exact mem_nodes_addNode.2 (.inr (h.mem_nodes d r hr))

theorem addLink (h : g.WellFormed) (source target : DocId) : (g.addLink source target).WellFormed where
  irrefl d hd := by
    rcases mem_referrersOf_addLink.1 hd with ⟨rfl, rfl, hne⟩ | hd
    · exact hne rfl
    · exact h.irrefl d hd
  mem_nodes d r hr := by
    rw [mem_nodes_addLink]
    rcases mem_referrersOf_addLink.1 hr with ⟨rfl, -, -⟩ | hr
    · exact .inl rfl
    · exact .inr (.inr (h.mem_nodes d r hr))

theorem ofText (s : String) : (ofText s).WellFormed where
  irrefl d hd := by
    obtain ⟨e, -, -, -, hne⟩ := mem_referrersOf_ofText.1 hd
    exact hne rfl
  mem_nodes d r hr := by
    obtain ⟨e, he, -, hr, -⟩ := mem_referrersOf_ofText.1 hr
    exact mem_nodes_ofText.2 ⟨e, he, .inr hr⟩

end WellFormed

theorem Built.wellFormed (h : g.Built) : g.WellFormed := by
  induction h with
  | empty => exact WellFormed.ofText ""
  | ofText s => exact .ofText s
  | addNode doc _ ih => exact ih.addNode doc
  | addLink source target _ ih => exact ih.addLink source target

end DocSearch.LinkGraph
