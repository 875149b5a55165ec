/-
Loading a term space. All files of the directory for weights are taken that have a name for the
space, whoever wrote them: loading succeeds exactly if each of them is a text, and gives the
documents of the names.
-/
import DocSearch.Proofs.Snapshot.WeightRun
import DocSearch.Proofs.Weights.Space

namespace DocSearch

open DocSearch.Path Text

/-! ## Steps that can fail -/

section Steps

variable {α β ε : Type} {f : α → Except ε β}

theorem mapM_cons_eq_ok_iff {a : α} {l : List α} {bs : List β} :
    (a :: l).mapM f = .ok bs ↔ ∃ b bs', f a = .ok b ∧ l.mapM f = .ok bs' ∧ b :: bs' = bs := by
  rw [List.mapM_cons]
  cases f a with
  | error e =>
    constructor
    · rintro ⟨⟩
    · rintro ⟨b, bs', ⟨⟩, -, -⟩
  | ok b =>
    cases l.mapM f with
    | error e =>
      constructor
      · rintro ⟨⟩
      · rintro ⟨b, bs', -, ⟨⟩, -⟩
    | ok bs' =>
      constructor
      · intro h; exact ⟨b, bs', rfl, rfl, Except.ok.inj h⟩
      · rintro ⟨b, bs', ⟨⟩, ⟨⟩, rfl⟩; rfl

/-- Steps one after another succeed exactly if each of them does. -/
theorem exists_mapM_eq_ok_iff : ∀ {l : List α},
    (∃ bs, l.mapM f = .ok bs) ↔ ∀ a ∈ l, ∃ b, f a = .ok b
  | [] => iff_of_true ⟨[], rfl⟩ nofun
  | a :: l => by
    simp only [mapM_cons_eq_ok_iff, List.forall_mem_cons, ← exists_mapM_eq_ok_iff (l := l)]
    constructor
    · rintro ⟨bs, b, bs', hb, hbs', -⟩; exact ⟨⟨b, hb⟩, bs', hbs'⟩
    · rintro ⟨⟨b, hb⟩, bs', hbs'⟩; exact ⟨_, b, bs', hb, hbs', rfl⟩

theorem mem_of_mapM_eq_ok {b : β} : ∀ {l : List α} {bs : List β}, l.mapM f = .ok bs →
    (b ∈ bs ↔ ∃ a ∈ l, f a = .ok b)
  | [], _, h => by cases h; simp
  | a :: l, _, h => by
    obtain ⟨b', bs', hb, hbs, rfl⟩ := mapM_cons_eq_ok_iff.1 h
    rw [List.mem_cons, mem_of_mapM_eq_ok hbs, eq_comm (a := b)]
    simp only [List.mem_cons, exists_eq_or_imp, hb, Except.ok.injEq]

end Steps

namespace Snapshot

variable {s : Snapshot} {t : FileTree} {place : List String} {space : Space}
  {sp : TermSpace Binary64}

theorem mem_weightFiles {names : List String} {f : DocId × String} :
    f ∈ weightFiles space names ↔ f.2 ∈ names ∧ weightsDoc? space f.2 = some f.1 := by
  unfold weightFiles
  rw [(List.mergeSort_perm _ _).mem_iff, List.mem_filterMap]
  constructor
  · rintro ⟨name, hname, h⟩
    obtain ⟨doc, hdoc, rfl⟩ := Option.map_eq_some_iff.1 h
    exact ⟨hname, hdoc⟩
  · rintro ⟨hname, hdoc⟩
    exact ⟨f.2, hname, by rw [hdoc]; rfl⟩

theorem mem_weightFiles_children {f : DocId × String} :
    f ∈ weightFiles space ((t.children (place ++ ["weights"])).map (·.1)) ↔
      weightsDoc? space f.2 = some f.1 ∧ ∃ n, t.nodes[place ++ ["weights"] ++ [f.2]]? = some n := by
  rw [mem_weightFiles, and_comm, List.mem_map]
  refine and_congr_right fun _ => ⟨?_, ?_⟩
  · rintro ⟨⟨name, n⟩, hmem, hname⟩
    exact ⟨n, hname ▸ FileTree.mem_children.1 hmem⟩
  · rintro ⟨n, hn⟩
    exact ⟨(f.2, n), FileTree.mem_children.2 hn, rfl⟩

/-! ## Loading a space -/

/-- The steps of loading a space: the files with a name for it, each read as a text. -/
def readWeights (s : Snapshot) (t : FileTree) (f : DocId × String) :
    Except LoadError (DocId × String) := (t.readText (s.weightsDir.join f.2)).map (f.1, ·)

theorem at_of_loadSpace (hload : s.loadSpace t space = .ok sp) : s.At (t.intended s.root) t := by
  unfold loadSpace at hload
  cases hlist : t.listDirectory s.weightsDir with
  | error e => rw [hlist] at hload; cases hload
  | ok es =>
    obtain ⟨q, hq, hweights, -⟩ := FileTree.listDirectory_eq_ok_iff.1 hlist
    obtain ⟨place, hbase, hroot, rfl⟩ := (FileTree.resolve_join_eq_ok_iff plain_weights).1 hq
    rw [← FileTree.intended_of_base hbase]
    exact ⟨hbase, hroot, hweights⟩

namespace At

variable (h : s.At place t)
include h

theorem loadSpace_eq_ok_iff : s.loadSpace t space = .ok sp ↔ ∃ texts,
    (weightFiles space ((t.children (place ++ ["weights"])).map (·.1))).mapM (s.readWeights t) =
      .ok texts ∧ spaceOfTexts texts = sp := by
  have hdir : t.resolve s.weightsDir = .ok (place ++ ["weights"]) :=
    (FileTree.resolve_join_eq_ok_iff plain_weights).2 ⟨place, h.base, h.root, rfl⟩
  have hlisted : s.loadSpace t space =
      s.loadListedSpace t space ((t.children (place ++ ["weights"])).map (·.1)) := by
    unfold loadSpace
    rw [FileTree.listDirectory_eq_ok_iff.2 ⟨_, hdir, h.weights, rfl⟩]
    rfl
  rw [hlisted]
  unfold loadListedSpace
  change ((weightFiles space _).mapM (s.readWeights t) >>= _) = _ ↔ _
  cases (weightFiles space ((t.children (place ++ ["weights"])).map (·.1))).mapM (s.readWeights t) with
  | error e =>
    constructor
    · rintro ⟨⟩
    · rintro ⟨texts, ⟨⟩, -⟩
  | ok texts =>
    constructor
    · intro hsp; exact ⟨texts, rfl, Except.ok.inj hsp⟩
    · rintro ⟨_, ⟨⟩, rfl⟩; rfl

theorem readWeights_eq_ok_iff {name text : String} {doc doc' : DocId}
    (hname : weightsDoc? space name = some doc) : s.readWeights t (doc, name) = .ok (doc', text) ↔
      doc = doc' ∧ t.nodes[place ++ ["weights"] ++ [name]]? = some (.file text.toUTF8) := by
  have hread : t.readText (s.weightsDir.join name) = .ok text ↔
      t.nodes[place ++ ["weights"] ++ [name]]? = some (.file text.toUTF8) := by
    rw [FileTree.readText_join_eq_ok_iff (plain_of_weightsDoc? hname) h.base_weightsDir h.weights,
      FileTree.node?_eq_getElem? (by simp)]
  rw [← hread]
  unfold readWeights
  cases t.readText (s.weightsDir.join name) with
  | error e =>
    constructor
    · rintro ⟨⟩
    · rintro ⟨-, ⟨⟩⟩
  | ok text' =>
    rw [Except.map, Except.ok.injEq, Except.ok.injEq, Prod.mk.injEq]

/-- A space can be loaded exactly if everything with a name for it is a text. -/
theorem exists_loadSpace_iff : (∃ sp, s.loadSpace t space = .ok sp) ↔
    ∀ name doc n, weightsDoc? space name = some doc →
      t.nodes[place ++ ["weights"] ++ [name]]? = some n → ∃ text : String, n = .file text.toUTF8 := by
  have hsteps : (∃ sp, s.loadSpace t space = .ok sp) ↔ ∀ f ∈ weightFiles space
      ((t.children (place ++ ["weights"])).map (·.1)), ∃ g, s.readWeights t f = .ok g := by
    rw [← exists_mapM_eq_ok_iff]
    simp only [h.loadSpace_eq_ok_iff]
    constructor
    · rintro ⟨_, texts, htexts, -⟩; exact ⟨texts, htexts⟩
    · rintro ⟨texts, htexts⟩; exact ⟨_, texts, htexts, rfl⟩
  rw [hsteps]
  constructor
  · intro hread name doc n hname hn
    obtain ⟨⟨doc', text⟩, hg⟩ := hread (doc, name) (mem_weightFiles_children.2 ⟨hname, n, hn⟩)
    rw [((h.readWeights_eq_ok_iff hname).1 hg).2] at hn
    exact ⟨text, (Option.some.inj hn).symm⟩
  · rintro htexts ⟨doc, name⟩ hf
    obtain ⟨hname, n, hn⟩ := mem_weightFiles_children.1 hf
    obtain ⟨text, rfl⟩ := htexts name doc n hname hn
    exact ⟨(doc, text), (h.readWeights_eq_ok_iff hname).2 ⟨rfl, hn⟩⟩

/-- A space is put together from the texts that have a name for it. -/
theorem exists_texts_of_loadSpace (hload : s.loadSpace t space = .ok sp) : ∃ texts,
    spaceOfTexts texts = sp ∧ ∀ f, f ∈ texts ↔ ∃ name, weightsDoc? space name = some f.1 ∧
      t.nodes[place ++ ["weights"] ++ [name]]? = some (.file f.2.toUTF8) := by
  obtain ⟨texts, htexts, hsp⟩ := h.loadSpace_eq_ok_iff.1 hload
  refine ⟨texts, hsp, fun ⟨doc, text⟩ => ?_⟩
  rw [mem_of_mapM_eq_ok htexts]
  constructor
  · rintro ⟨⟨doc', name⟩, hf, hread⟩
    obtain ⟨hname, -⟩ := mem_weightFiles_children.1 hf
    obtain ⟨rfl, hn⟩ := (h.readWeights_eq_ok_iff hname).1 hread
    exact ⟨name, hname, hn⟩
  · rintro ⟨name, hname, hn⟩
    exact ⟨(doc, name), mem_weightFiles_children.2 ⟨hname, _, hn⟩,
      (h.readWeights_eq_ok_iff hname).2 ⟨rfl, hn⟩⟩

theorem exists_getElem?_vectors_iff (hload : s.loadSpace t space = .ok sp) {doc : DocId} :
    (∃ v, sp.vectors[doc]? = some v) ↔
      ∃ name n, weightsDoc? space name = some doc ∧
        t.nodes[place ++ ["weights"] ++ [name]]? = some n := by
  obtain ⟨texts, rfl, hmem⟩ := h.exists_texts_of_loadSpace hload
  unfold spaceOfTexts
  rw [TermSpace.exists_getElem?_vectors_iff]
  constructor
  · rintro ⟨d, hd, rfl⟩
    obtain ⟨f, hf, rfl⟩ := List.mem_map.1 hd
    obtain ⟨name, hname, hn⟩ := (hmem f).1 hf
    exact ⟨name, _, hname, hn⟩
  · rintro ⟨name, n, hname, hn⟩
    obtain ⟨text, rfl⟩ := h.exists_loadSpace_iff.1 ⟨_, hload⟩ name doc n hname hn
    exact ⟨_, List.mem_map.2 ⟨(doc, text), (hmem _).2 ⟨name, hname, hn⟩, rfl⟩, rfl⟩

end At

/-! ## Loading the model -/

theorem loadModel_eq_ok_iff {m : Model Binary64} : s.loadModel t = .ok m ↔
    s.loadLemmaTable t = .ok m.table ∧ s.loadSpace t .tokens = .ok m.tokens ∧
      s.loadSpace t .lemmas = .ok m.lemmas := by
  unfold loadModel
  cases s.loadLemmaTable t with
  | error e => simp [bind, Except.bind]
  | ok table =>
    cases s.loadSpace t .tokens with
    | error e => simp [bind, Except.bind]
    | ok tokens =>
      cases s.loadSpace t .lemmas with
      | error e => simp [bind, Except.bind]
      | ok lemmas =>
        obtain ⟨tokens', lemmas', table'⟩ := m
        simp only [bind, Except.bind, Except.ok.injEq, Model.mk.injEq]
        exact and_rotate.symm

theorem loadSpace_of_loadModel {m : Model Binary64} (hm : s.loadModel t = .ok m) (space : Space) :
    s.loadSpace t space = .ok (m.space space) := by
  obtain ⟨-, htokens, hlemmas⟩ := loadModel_eq_ok_iff.1 hm
  cases space with
  | tokens => exact htokens
  | lemmas => exact hlemmas

end Snapshot

end DocSearch
