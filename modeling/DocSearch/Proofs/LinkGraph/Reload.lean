/-
Writing a graph and reading it back. Each document has one line, which holds digits, a colon and
commas only and is read as the document with all its referrers. So a graph without self references
whose referrers are all documents of the graph is read back as it was; this is every graph that
was built.
-/
import DocSearch.Proofs.DocSet
import DocSearch.Proofs.LinkGraph.Links
import DocSearch.Proofs.Snapshot.Change
import DocSearch.Proofs.Text.Lines

namespace DocSearch.LinkGraph

open Text

/-! ## The line of a document -/

section Line

variable {doc : DocId} {refs : DocSet} {c : Char}

theorem toList_recordText (doc : DocId) (refs : DocSet) :
    (recordText doc refs).toList = doc.text.toList ++ ':' :: (refs.text ",").toList := by
  simp [recordText]

theorem mem_recordText (h : c ∈ (recordText doc refs).toList) :
    c.isDigit = true ∨ c = ':' ∨ c = ',' := by
  rw [toList_recordText, List.mem_append, List.mem_cons] at h
  rcases h with h | rfl | h
  · exact .inl (DocId.isDigit_of_mem_text h)
  · exact .inr (.inl rfl)
  · cases hc : c.isDigit with
    | true => exact .inl rfl
    | false => exact .inr (.inr (DocSet.mem_text hc h))

theorem isBlank_of_mem_recordText (h : c ∈ (recordText doc refs).toList) : isBlank c = false := by
  rcases mem_recordText h with h | rfl | rfl
  · exact isBlank_eq_false_of_isDigit h
  · rfl
  · rfl

theorem notMem_recordText (hc : c.isDigit = false ∧ c ≠ ':' ∧ c ≠ ',') :
    c ∉ (recordText doc refs).toList := fun h => by
  rcases mem_recordText h with hd | rfl | rfl
  · rw [hc.1] at hd; cases hd
  · exact hc.2.1 rfl
  · exact hc.2.2 rfl

/-- The items of a line that are not empty. -/
theorem items_text (refs : DocSet) :
    (((refs.text ",").toList.splitOn ',').map trim).filter (!·.isEmpty) =
      refs.toList.map fun d => d.text.toList := by
  by_cases h : refs = ∅
  · rw [h, DocSet.text_empty]
    rfl
  · have htrim : trim ∘ (fun d : DocId => d.text.toList) = fun d => d.text.toList :=
      funext fun d => trim_of_forall fun c hc =>
        isBlank_eq_false_of_isDigit (DocId.isDigit_of_mem_text hc)
    rw [DocSet.splitOn_text h, List.map_map, htrim, List.filter_eq_self]
    intro l hl
    obtain ⟨d, -, rfl⟩ := List.mem_map.1 hl
    have hne : d.text.toList ≠ [] := Numeral.repr_ne_nil d.toNat
    rw [List.isEmpty_eq_false_iff.2 hne]
    rfl

theorem mapM_read?_text (ds : List DocId) :
    (ds.map fun d => d.text.toList).mapM DocId.read? = some ds := by
  induction ds with
  | nil => rfl
  | cons d ds ih =>
    rw [List.map_cons, List.mapM_cons, DocId.read?_text, ih]
    rfl

theorem readRecord?_recordText (doc : DocId) (refs : DocSet) :
    readRecord? (recordText doc refs).toList = some (doc, refs.toList) := by
  have hline : trim (recordText doc refs).toList = (recordText doc refs).toList :=
    trim_of_forall fun _ => isBlank_of_mem_recordText
  have hsplit : splitOnce ':' (recordText doc refs).toList =
      some (doc.text.toList, (refs.text ",").toList) :=
    splitOnce_eq_some_iff.2 ⟨toList_recordText doc refs, DocId.notMem_text rfl⟩
  unfold readRecord?
  rw [hline, hsplit]
  simp only [Option.bind_eq_bind, Option.bind_some, DocId.read?_trim_text, items_text, mapM_read?_text]

end Line

/-! ## The text of a graph -/

variable {g : LinkGraph}

theorem stringLines_text (g : LinkGraph) :
    stringLines g.text = g.toList.map fun e => (recordText e.1 e.2).toList := by
  have hn : ∀ l ∈ g.toList.map fun e => recordText e.1 e.2, '\n' ∉ l.toList := by
    intro l hl
    obtain ⟨e, -, rfl⟩ := List.mem_map.1 hl
    exact notMem_recordText (by decide)
  have hr : ∀ l ∈ g.toList.map fun e => recordText e.1 e.2, l.toList.getLast? ≠ some '\r' := by
    intro l hl hlast
    obtain ⟨e, -, rfl⟩ := List.mem_map.1 hl
    exact notMem_recordText (by decide) (List.mem_of_getLast? hlast)
  rw [text, stringLines_unlines hn hr, List.map_map]
  rfl

theorem records_text (g : LinkGraph) : records g.text = g.toList.map fun e => (e.1, e.2.toList) := by
  rw [records, stringLines_text, List.filterMap_map]
  simp only [Function.comp_def, readRecord?_recordText, List.filterMap_eq_map']

theorem mem_records_text {e : DocId × List DocId} :
    e ∈ records g.text ↔ ∃ d ∈ g.nodes, e = (d, (g.referrersOf d).toList) := by
  rw [records_text, List.mem_map]
  constructor
  · rintro ⟨⟨d, refs⟩, he, rfl⟩
    obtain ⟨hd, rfl⟩ := mem_toList.1 he
    exact ⟨d, hd, rfl⟩
  · rintro ⟨d, hd, rfl⟩
    exact ⟨_, mem_toList.2 ⟨hd, rfl⟩, rfl⟩

/-- Of any graph, the documents and their referrers are read back, the referrers as documents too,
and no reference of a document to itself. -/
theorem mem_nodes_ofText_text {d : DocId} :
    d ∈ (ofText g.text).nodes ↔ d ∈ g.nodes ∨ ∃ t, d ∈ g.referrersOf t := by
  rw [mem_nodes_ofText]
  constructor
  · rintro ⟨e, he, hd⟩
    obtain ⟨t, ht, rfl⟩ := mem_records_text.1 he
    rcases hd with rfl | hd
    · exact .inl ht
    · exact .inr ⟨t, Std.ExtTreeSet.mem_toList.1 hd⟩
  · rintro (hd | ⟨t, hd⟩)
    · exact ⟨_, mem_records_text.2 ⟨d, hd, rfl⟩, .inl rfl⟩
    · exact ⟨_, mem_records_text.2 ⟨t, mem_nodes_of_mem_referrersOf hd, rfl⟩,
        .inr (Std.ExtTreeSet.mem_toList.2 hd)⟩

theorem mem_referrersOf_ofText_text {d r : DocId} :
    r ∈ (ofText g.text).referrersOf d ↔ r ∈ g.referrersOf d ∧ r ≠ d := by
  rw [mem_referrersOf_ofText]
  constructor
  · rintro ⟨e, he, rfl, hr, hne⟩
    obtain ⟨t, -, rfl⟩ := mem_records_text.1 he
    exact ⟨Std.ExtTreeSet.mem_toList.1 hr, hne⟩
  · rintro ⟨hr, hne⟩
    exact ⟨_, mem_records_text.2 ⟨d, mem_nodes_of_mem_referrersOf hr, rfl⟩, rfl,
      Std.ExtTreeSet.mem_toList.2 hr, hne⟩

theorem WellFormed.ofText_text (h : g.WellFormed) : LinkGraph.ofText g.text = g := by
  refine LinkGraph.ext (fun d => ?_) fun d r => ?_
  · rw [mem_nodes_ofText_text]
    exact or_iff_left_of_imp fun ⟨t, hd⟩ => h.mem_nodes t d hd
  · rw [mem_referrersOf_ofText_text]
    exact and_iff_left_of_imp fun hr he => h.irrefl d (he ▸ hr)

/-- Graphs that are not well formed change when they are written and read back. -/
theorem ofText_text_eq_iff : ofText g.text = g ↔ g.WellFormed :=
  ⟨fun h => h ▸ WellFormed.ofText g.text, WellFormed.ofText_text⟩

/-! ## The file of a graph -/

/-- However a graph was built, no document refers to itself, every referrer is a document of the
graph, and the graph that is read from its written file has the same documents and the same
referrers of every document. -/
theorem Built.reload (h : g.Built) :
    (∀ d, d ∉ g.referrersOf d) ∧
    (∀ d r, r ∈ g.referrersOf d → r ∈ g.nodes) ∧
    ∀ (s : Snapshot) (t t' : FileTree), (s.saveLinkGraph g).Yields t () t' →
      ∃ text, t'.readText s.links = .ok text ∧ (LinkGraph.ofText text).nodes = g.nodes ∧
        ∀ d, (LinkGraph.ofText text).referrersOf d = g.referrersOf d := by
  refine ⟨h.wellFormed.irrefl, h.wellFormed.mem_nodes, fun s t t' hsave => ?_⟩
  refine ⟨g.text, FileTree.readText_saveText hsave, ?_⟩
  rw [h.wellFormed.ofText_text]
  exact ⟨rfl, fun _ => rfl⟩

/-- A graph with a dropped link of a document to itself, an empty item and documents without
referrers, of which one has no links at all. -/
def mixedGraph : LinkGraph := ((ofText "1: 2,,1\n3:\n").addLink 4 4).addLink 2 3

theorem built_mixedGraph : mixedGraph.Built := ((Built.ofText _).addLink 4 4).addLink 2 3

example : mixedGraph.text = "1:2\n2:\n3:2\n4:\n" := by decide

theorem reload_mixedGraph : mixedGraph.Built ∧
    (∀ d, d ∉ mixedGraph.referrersOf d) ∧
    (∀ d r, r ∈ mixedGraph.referrersOf d → r ∈ mixedGraph.nodes) ∧
    ∃ t', (Snapshot.saveLinkGraph ⟨⟨"out"⟩⟩ mixedGraph).Yields .empty () t' ∧
      ∃ text, t'.readText (Snapshot.links ⟨⟨"out"⟩⟩) = .ok text ∧
        (LinkGraph.ofText text).nodes = mixedGraph.nodes ∧
        ∀ d, (LinkGraph.ofText text).referrersOf d = mixedGraph.referrersOf d := by
  have h := Built.reload built_mixedGraph
  have hsave : (Snapshot.saveLinkGraph ⟨⟨"out"⟩⟩ mixedGraph).Yields .empty () _ :=
    Change.yields_of_isOk (by decide +kernel)
  exact ⟨built_mixedGraph, h.1, h.2.1, _, hsave, h.2.2 _ _ _ hsave⟩

end DocSearch.LinkGraph
