/-
Writing the weights of a corpus. A run that succeeds makes the directories that it needs and leaves
one file for the tokens of each document with weights, one for its lemmas if it has any, and two
more; into a fresh directory, nothing else that loading takes for weights is below it.
-/
import DocSearch.Commands
import DocSearch.Proofs.Corpus.Weights
import DocSearch.Proofs.FileTree.Files
import DocSearch.Proofs.Snapshot.WeightNames

namespace DocSearch

open DocSearch.Path

/-- A directory that a command may write to as if it were its own: nothing is below it, and no other
directories come up on the way to it. -/
structure FileTree.Fresh (t : FileTree) (p : Path) : Prop where
  free : ∀ rest, rest ≠ [] → t.node? (t.intended p ++ rest) = none
  way : t.isDirectory p = true ∨ ".." ∉ p.components

/-- Files elsewhere leave it so. -/
theorem FileTree.Fresh.putFiles {t : FileTree} {p : Path} (h : t.Fresh p) (hup : ".." ∉ p.components)
    {fs : List (List String × ByteArray)} (hfs : ∀ f ∈ fs, ¬ t.intended p <+: f.1) :
    (t.putFiles fs).Fresh p where
  free rest hrest := by
    have hintended : (t.putFiles fs).intended p = t.intended p := by
      unfold intended
      rw [workDir_putFiles]
    have hfree := h.free rest hrest
    rw [node?_eq_getElem? (by simp [hrest])] at hfree
    rw [hintended, node?_eq_getElem? (by simp [hrest])]
    refine Option.eq_none_iff_forall_ne_some.2 fun n hn => ?_
    rcases mem_of_getElem?_putFiles hn with ⟨f, hf, hplace, -⟩ | hn
    · exact hfs f hf (hplace ▸ List.prefix_append _ _)
    · rw [hfree] at hn; cases hn
  way := .inr hup

namespace Snapshot

variable {s : Snapshot} {t t' : FileTree} {place : List String} {u : Unit}

/-! ## A snapshot and its directories -/

theorem plain_weights : Plain "weights" := by decide

/-- A snapshot at a place. -/
structure Rooted (s : Snapshot) (place : List String) (t : FileTree) : Prop where
  base : t.base s.root = .ok place
  root : t.node? place = some .directory

namespace Rooted

/-- A file takes no directory away. -/
theorem putFile (h : s.Rooted place t) {q : List String} {bytes : ByteArray}
    (hq : t.node? q ≠ some .directory) : s.Rooted place (t.putFile q bytes) where
  base := by
    have hb := h.base
    unfold FileTree.base FileTree.start at hb ⊢
    rw [FileTree.workDir_putFile]
    exact FileTree.follow_mono (fun _ => FileTree.node?_putFile_directory hq) hb
  root := FileTree.node?_putFile_directory hq h.root

theorem of_saveText {name text : String} (hname : Plain name) (h : s.Rooted place t)
    (hs : (Change.saveText (s.root.join name) text).Yields t u t') :
    t' = t.putFile (place ++ [name]) text.toUTF8 ∧ s.Rooted place t' ∧
      ∀ q, t.node? q = some .directory → t'.node? q = some .directory := by
  obtain ⟨hfree, rfl⟩ := (FileTree.yields_saveText_join hname h.base h.root).1 hs
  exact ⟨rfl, h.putFile hfree, fun _ => FileTree.node?_putFile_directory hfree⟩

end Rooted

/-- A snapshot at a place, with the directory of its weights. -/
structure At (s : Snapshot) (place : List String) (t : FileTree) : Prop where
  base : t.base s.root = .ok place
  root : t.node? place = some .directory
  weights : t.node? (place ++ ["weights"]) = some .directory

namespace At

theorem rooted (h : s.At place t) : s.Rooted place t := ⟨h.base, h.root⟩

theorem base_weightsDir (h : s.At place t) : t.base s.weightsDir = .ok (place ++ ["weights"]) :=
  (FileTree.base_join_eq_ok_iff plain_weights).2 ⟨place, h.base, h.root, rfl⟩

theorem putFile (h : s.At place t) {q : List String} {bytes : ByteArray}
    (hq : t.node? q ≠ some .directory) : s.At place (t.putFile q bytes) :=
  have hrooted := h.rooted.putFile hq
  ⟨hrooted.base, hrooted.root, FileTree.node?_putFile_directory hq h.weights⟩

theorem of_saveWeights {space : Space} {doc : DocId} {rs : List (WeightRecord Binary64)}
    (h : s.At place t) (hs : (s.saveWeights space doc rs).Yields t u t') :
    t' = t.putFile (place ++ ["weights"] ++ [weightsFileName space doc]) (WeightFile.text rs).toUTF8 ∧
      s.At place t' := by
  obtain ⟨hfree, rfl⟩ := (FileTree.yields_saveText_join (plain_weightsFileName space doc)
    h.base_weightsDir h.weights).1 hs
  exact ⟨rfl, h.putFile hfree⟩

end At

/-- The first weights that are saved find or make the directory for them. -/
theorem at_of_saveWeights {space : Space} {doc : DocId} {rs : List (WeightRecord Binary64)}
    (hs : (s.saveWeights space doc rs).Yields t u t') :
    s.At (t.intended s.root) (t.createDirectories s.weightsDir).2 ∧
      (s.saveWeights space doc rs).Yields (t.createDirectories s.weightsDir).2 u t' := by
  obtain ⟨t₀, r, hmade, hr, hrdir, hs⟩ :=
    FileTree.exists_of_yields_saveText_join (plain_weightsFileName space doc) hs
  obtain ⟨place, hplace, hdir, rfl⟩ := (FileTree.base_join_eq_ok_iff plain_weights).1 hr
  rw [weightsDir, stem_join plain_weights, ← weightsDir] at hmade
  have hmore := FileTree.moreDirectories_makeChain s.weightsDir.ancestors t
  rw [← FileTree.createDirectories, hmade] at hmore
  have hintended : place = t.intended s.root := by
    rw [← hmore.intended]
    exact FileTree.intended_of_base hplace
  rw [hmade]
  exact ⟨hintended ▸ ⟨hplace, hdir, hrdir⟩, hs⟩

/-- Nothing comes up below the directory for weights when that is made, unless the path goes up and
down again. -/
theorem getElem?_createDirectories_weightsDir
    (hway : t.isDirectory s.root = true ∨ ".." ∉ s.root.components) (name : String) :
    (t.createDirectories s.weightsDir).2.nodes[t.intended s.root ++ ["weights"] ++ [name]]? =
      t.nodes[t.intended s.root ++ ["weights"] ++ [name]]? := by
  have hmore : FileTree.MoreDirectories (· <+: t.intended s.weightsDir) t
      (t.createDirectories s.weightsDir).2 := by
    rcases hway with hthere | hup
    · obtain ⟨q, hq, hqdir⟩ := FileTree.base_of_isDirectory hthere
      exact FileTree.moreDirectories_createDirectories_join plain_weights hq hqdir
    · refine FileTree.moreDirectories_createDirectories ?_
      unfold weightsDir
      rw [components_join plain_weights]
      simpa using hup
  rw [← FileTree.node?_eq_getElem? (by simp), ← FileTree.node?_eq_getElem? (by simp)]
  rcases hmore.node? (t.intended s.root ++ ["weights"] ++ [name]) with hsame | ⟨-, -, hinit⟩
  · exact hsame
  · -- what was made is not below the directory for weights
    have hlength := hinit.length_le
    rw [weightsDir, FileTree.intended_join plain_weights] at hlength
    simp at hlength

end Snapshot

namespace Commands

variable {s : Snapshot} {t t' : FileTree} {place : List String} {u : Unit}

/-! ## The files of a run -/

/-- The file of a document's weights in one space. -/
def weightsEntry (place : List String) (space : Space) (doc : DocId)
    (rs : List (WeightRecord Binary64)) : List String × ByteArray :=
  (place ++ ["weights"] ++ [Snapshot.weightsFileName space doc], (WeightFile.text rs).toUTF8)

/-- The files of a document's weights. -/
def weightsEntries (place : List String) (w : Corpus.DocWeights Binary64) :
    List (List String × ByteArray) :=
  weightsEntry place .tokens w.doc w.tokens ::
    w.lemmas.toList.map (weightsEntry place .lemmas w.doc)

theorem mem_weightsEntries {w : Corpus.DocWeights Binary64} {f : List String × ByteArray} :
    f ∈ weightsEntries place w ↔
      ∃ space rs, Corpus.recordsIn w space = some rs ∧ f = weightsEntry place space w.doc rs := by
  unfold weightsEntries
  rw [List.mem_cons, List.mem_map]
  constructor
  · rintro (rfl | ⟨rs, hrs, rfl⟩)
    · exact ⟨.tokens, w.tokens, rfl, rfl⟩
    · exact ⟨.lemmas, rs, Option.mem_toList.1 hrs, rfl⟩
  · rintro ⟨_ | _, rs, hrs, rfl⟩
    · cases hrs; exact .inl rfl
    · exact .inr ⟨rs, Option.mem_toList.2 hrs, rfl⟩

theorem putFiles_of_saveDocWeights {w : Corpus.DocWeights Binary64} (h : s.At place t)
    (hs : (saveDocWeights s w).Yields t u t') :
    t' = t.putFiles (weightsEntries place w) ∧ s.At place t' := by
  obtain ⟨⟨⟩, t₁, htokens, hlemmas⟩ := Change.yields_bind.1 hs
  obtain ⟨rfl, h₁⟩ := h.of_saveWeights (Change.yields_mapError.1 htokens)
  unfold weightsEntries
  cases hl : w.lemmas with
  | none =>
    rw [hl] at hlemmas
    obtain ⟨-, rfl⟩ := Change.yields_pure.1 hlemmas
    exact ⟨rfl, h₁⟩
  | some rs =>
    rw [hl] at hlemmas
    obtain ⟨rfl, h₂⟩ := h₁.of_saveWeights (Change.yields_mapError.1 hlemmas)
    exact ⟨rfl, h₂⟩

-- By induction on the documents: a save leaves the directory for weights, which the next one needs.
theorem putFiles_of_saveAllWeights : ∀ {ws : List (Corpus.DocWeights Binary64)} {t : FileTree},
    s.At place t → (saveAllWeights s ws).Yields t u t' →
      t' = t.putFiles (ws.flatMap (weightsEntries place)) ∧ s.At place t'
  | [], t, h, hs => by
    obtain ⟨-, rfl⟩ := Change.yields_pure.1 hs
    exact ⟨rfl, h⟩
  | w :: ws, t, h, hs => by
    obtain ⟨⟨⟩, t₁, hw, hws⟩ := Change.yields_bind.1 hs
    obtain ⟨rfl, h₁⟩ := putFiles_of_saveDocWeights h hw
    obtain ⟨rfl, h₂⟩ := putFiles_of_saveAllWeights h₁ hws
    rw [List.flatMap_cons, FileTree.putFiles_append]
    exact ⟨rfl, h₂⟩

/-- The first of several documents' weights find or make the directory for all of them. -/
theorem at_of_saveAllWeights {w : Corpus.DocWeights Binary64} {ws : List (Corpus.DocWeights Binary64)}
    (hs : (saveAllWeights s (w :: ws)).Yields t u t') :
    s.At (t.intended s.root) (t.createDirectories s.weightsDir).2 ∧
      (saveAllWeights s (w :: ws)).Yields (t.createDirectories s.weightsDir).2 u t' := by
  obtain ⟨⟨⟩, t₁, hw, hws⟩ := Change.yields_bind.1 hs
  obtain ⟨⟨⟩, t₂, htokens, hlemmas⟩ := Change.yields_bind.1 hw
  obtain ⟨h, htokens⟩ := Snapshot.at_of_saveWeights (Change.yields_mapError.1 htokens)
  exact ⟨h, Change.yields_bind.2 ⟨(), t₁, Change.yields_bind.2
    ⟨(), t₂, Change.yields_mapError.2 htokens, hlemmas⟩, hws⟩⟩

/-- The weights of a corpus, in numbers as they are written. -/
abbrev weightsOf (c : Corpus) : List (Corpus.DocWeights Binary64) := c.weights

/-- The manifest of a run. -/
def manifestOf (now : String) (c : Corpus) : Manifest :=
  ⟨.ofNat (weightsOf c).length, now, snapshotVersion⟩

/-- The files beside the directory for weights. -/
def tableEntries (now : String) (c : Corpus) (place : List String) : List (List String × ByteArray) :=
  [(place ++ ["lemma_map.txt"], c.lemmaTable.text.toUTF8),
    (place ++ ["meta.json"], (manifestOf now c).text.toUTF8)]

/-- The files that a run leaves: those of the weights, and two more beside their directory. -/
def runEntries (now : String) (c : Corpus) (place : List String) : List (List String × ByteArray) :=
  (weightsOf c).flatMap (weightsEntries place) ++ tableEntries now c place

variable {now : String} {c : Corpus}

/-- Of the files of a run, those with a name for a document in a space hold its records there. -/
theorem eq_of_mem_runEntries {f : List String × ByteArray} (hf : f ∈ runEntries now c place)
    {name : String} (hplace : f.1 = place ++ ["weights"] ++ [name]) {space : Space} {doc : DocId}
    (hname : Snapshot.weightsDoc? space name = some doc) :
    ∃ w ∈ weightsOf c, w.doc = doc ∧
      ∃ rs, Corpus.recordsIn w space = some rs ∧ f = weightsEntry place space doc rs := by
  rcases List.mem_append.1 hf with hf | hf
  · obtain ⟨w, hw, hf⟩ := List.mem_flatMap.1 hf
    obtain ⟨other, rs, hrs, rfl⟩ := mem_weightsEntries.1 hf
    rw [← List.singleton_inj.1 (List.append_cancel_left hplace)] at hname
    have hspace : space = other := by
      by_contra hne
      rw [Snapshot.weightsDoc?_weightsFileName_of_ne hne] at hname
      cases hname
    subst hspace
    rw [Snapshot.weightsDoc?_weightsFileName] at hname
    cases hname
    exact ⟨w, hw, rfl, rs, hrs, rfl⟩
  · -- the other two files are not in the directory for weights
    have hlength := congrArg List.length hplace
    unfold tableEntries at hf
    simp only [List.mem_cons, List.not_mem_nil, or_false] at hf
    rcases hf with rfl | rfl <;> simp at hlength

/-- The files of a run beside the directory for weights hold the tables. -/
theorem mem_tableEntries_of_mem_runEntries {f : List String × ByteArray} (hf : f ∈ runEntries now c place)
    {name : String} (hplace : f.1 = place ++ [name]) : f ∈ tableEntries now c place := by
  rcases List.mem_append.1 hf with hf | hf
  · obtain ⟨w, -, hf⟩ := List.mem_flatMap.1 hf
    obtain ⟨space, rs, -, rfl⟩ := mem_weightsEntries.1 hf
    have hlength := congrArg List.length hplace
    simp [weightsEntry] at hlength
  · exact hf

theorem weightsEntry_mem_runEntries {w : Corpus.DocWeights Binary64} (hw : w ∈ weightsOf c)
    {space : Space} {rs : List (WeightRecord Binary64)} (hrs : Corpus.recordsIn w space = some rs) :
    weightsEntry place space w.doc rs ∈ runEntries now c place :=
  List.mem_append_left _ (List.mem_flatMap.2 ⟨w, hw, mem_weightsEntries.2 ⟨space, rs, hrs, rfl⟩⟩)

theorem putFiles_of_saveTables {t₁ : FileTree} (h : s.Rooted place t)
    (htable : (save (s.saveLemmaTable c.lemmaTable)).Yields t () t₁)
    (hmanifest : (save (s.saveManifest (manifestOf now c))).Yields t₁ () t') :
    t' = t.putFiles (tableEntries now c place) ∧ s.Rooted place t' ∧
      ∀ q, t.node? q = some .directory → t'.node? q = some .directory := by
  obtain ⟨rfl, h, hkeep⟩ := h.of_saveText (by decide) (Change.yields_mapError.1 htable)
  obtain ⟨rfl, h, hkeep'⟩ := h.of_saveText (by decide) (Change.yields_mapError.1 hmanifest)
  exact ⟨rfl, h, fun q hq => hkeep' q (hkeep q hq)⟩

section Run

variable {corpus output : Path} (hread : Corpus.read t corpus = .ok c)
include hread

/-- The steps of a run. -/
theorem exists_of_writeWeights (hs : (writeWeights now corpus output).Yields t () t') : ∃ t₁ t₂,
    (saveAllWeights ⟨output⟩ (weightsOf c)).Yields t () t₁ ∧
      (save (Snapshot.saveLemmaTable ⟨output⟩ c.lemmaTable)).Yields t₁ () t₂ ∧
      (save (Snapshot.saveManifest ⟨output⟩ (manifestOf now c))).Yields t₂ () t' := by
  obtain ⟨c', t₁, hquery, hs⟩ := Change.yields_bind.1 hs
  obtain ⟨hc', rfl⟩ := Change.yields_query.1 hquery
  rw [hread] at hc'
  cases hc'
  obtain ⟨⟨⟩, t₂, hweights, hs⟩ := Change.yields_bind.1 hs
  obtain ⟨⟨⟩, t₃, htable, hmanifest⟩ := Change.yields_bind.1 hs
  exact ⟨t₂, t₃, hweights, htable, hmanifest⟩

/-- A run with weights makes the directory for them and puts its files. -/
theorem at_of_writeWeights (hne : weightsOf c ≠ [])
    (hs : (writeWeights now corpus output).Yields t () t') :
    Snapshot.At ⟨output⟩ (t.intended output) t' ∧
      t' = (t.createDirectories (Snapshot.weightsDir ⟨output⟩)).2.putFiles
        (runEntries now c (t.intended output)) := by
  obtain ⟨t₁, t₂, hweights, htable, hmanifest⟩ := exists_of_writeWeights hread hs
  obtain ⟨w, ws, hws⟩ := List.exists_cons_of_ne_nil hne
  rw [hws] at hweights
  obtain ⟨h, hweights⟩ := at_of_saveAllWeights hweights
  obtain ⟨rfl, h⟩ := putFiles_of_saveAllWeights h hweights
  obtain ⟨rfl, hrooted, hkeep⟩ := putFiles_of_saveTables h.rooted htable hmanifest
  refine ⟨⟨hrooted.base, hrooted.root, hkeep _ h.weights⟩, ?_⟩
  rw [runEntries, FileTree.putFiles_append, hws]

theorem putFiles_of_writeWeights (hne : weightsOf c ≠ []) (hfresh : t.Fresh output)
    (hs : (writeWeights now corpus output).Yields t () t') :
    ∃ (t₀ : FileTree) (place : List String), Snapshot.At ⟨output⟩ place t' ∧
      (∀ name, t₀.nodes[place ++ ["weights"] ++ [name]]? = none) ∧
      t' = t₀.putFiles (runEntries now c place) := by
  obtain ⟨h, heq⟩ := at_of_writeWeights hread hne hs
  refine ⟨_, _, h, fun name => ?_, heq⟩
  have hfree := hfresh.free (["weights"] ++ [name]) (by simp)
  rw [← List.append_assoc, FileTree.node?_eq_getElem? (by simp)] at hfree
  exact (Snapshot.getElem?_createDirectories_weightsDir hfresh.way name).trans hfree

/-- A run without weights makes the directory for its tables and puts these. -/
theorem rooted_of_writeWeights (hnil : weightsOf c = [])
    (hs : (writeWeights now corpus output).Yields t () t') :
    Snapshot.Rooted ⟨output⟩ (t.intended output) t' ∧
      t' = (t.createDirectories output.stem).2.putFiles (tableEntries now c (t.intended output)) := by
  obtain ⟨t₁, t₂, hweights, htable, hmanifest⟩ := exists_of_writeWeights hread hs
  rw [hnil] at hweights
  obtain ⟨-, rfl⟩ := Change.yields_pure.1 hweights
  -- it is the lemma table that the directories are made for
  obtain ⟨t₀, place, hmade, hplace, hdir, htable⟩ := FileTree.exists_of_yields_saveText_join
    (by decide) (Change.yields_mapError.1 htable)
  have hmore := FileTree.moreDirectories_makeChain output.stem.ancestors t
  rw [← FileTree.createDirectories, hmade] at hmore
  have hintended : place = t.intended output := by
    rw [← hmore.intended]
    exact FileTree.intended_of_base hplace
  subst hintended
  obtain ⟨rfl, hrooted, -⟩ :=
    putFiles_of_saveTables ⟨hplace, hdir⟩ (Change.yields_mapError.2 htable) hmanifest
  exact ⟨hrooted, by rw [hmade]⟩

/-- Whether or not there are weights, a run makes directories and puts its files. -/
theorem exists_putFiles_of_writeWeights (hs : (writeWeights now corpus output).Yields t () t') :
    Snapshot.Rooted ⟨output⟩ (t.intended output) t' ∧
      ∃ t₀, FileTree.MoreDirectories (fun _ => True) t t₀ ∧
        t' = t₀.putFiles (runEntries now c (t.intended output)) := by
  have hmore : ∀ p : Path, FileTree.MoreDirectories (fun _ => True) t (t.createDirectories p).2 :=
    fun p => (FileTree.moreDirectories_makeChain p.ancestors t).mono fun _ _ => trivial
  by_cases hnil : weightsOf c = []
  · obtain ⟨hrooted, heq⟩ := rooted_of_writeWeights hread hnil hs
    refine ⟨hrooted, _, hmore output.stem, ?_⟩
    rw [heq, runEntries, hnil]
    rfl
  · obtain ⟨hat, heq⟩ := at_of_writeWeights hread hnil hs
    exact ⟨hat.rooted, _, hmore _, heq⟩

end Run

end Commands

end DocSearch
