/-
Writing the weights of a corpus where a snapshot may be already. A run replaces the weight files
that it writes and removes none, so the model that is loaded afterwards has the documents of the
corpus and those of all other files that were there; it agrees with the manifest of the run exactly
if there were no such files. A run without a token makes no directory for weights, so then a model is
loaded only if there was one.
-/
import Mathlib.Data.List.Perm.Subperm
import DocSearch.Proofs.Snapshot.WeightReload

namespace DocSearch

open DocSearch.Path Text

/-- A table is as large as a list of keys in it exactly if it has no others. -/
theorem size_eq_length_iff {κ β : Type} [Ord κ] [Std.TransOrd κ] [Std.LawfulEqOrd κ]
    {m : Std.ExtTreeMap κ β} {ks : List κ} (hn : ks.Nodup) (hks : ∀ k ∈ ks, ∃ b, m[k]? = some b) :
    ks.length ≤ m.size ∧ (m.size = ks.length ↔ ∀ k, (∃ b, m[k]? = some b) → k ∈ ks) := by
  have hkeys : ∀ k, k ∈ m.keys ↔ ∃ b, m[k]? = some b := fun k => by
    rw [Std.ExtTreeMap.mem_keys, Std.ExtTreeMap.mem_iff_isSome_getElem?, Option.isSome_iff_exists]
  have hsub : ks.Subperm m.keys := hn.subperm fun k hk => (hkeys k).2 (hks k hk)
  rw [← Std.ExtTreeMap.length_keys]
  refine ⟨hsub.length_le, fun hlength k hk => ?_, fun hall => ?_⟩
  · exact (hsub.perm_of_length_le hlength.le).mem_iff.2 ((hkeys k).2 hk)
  · have hsup : m.keys.Subperm ks :=
      Std.ExtTreeMap.nodup_keys.subperm fun k hk => hall k ((hkeys k).1 hk)
    exact (hsup.antisymm hsub).length_eq

namespace Snapshot

variable {s : Snapshot} {t : FileTree} {space : Space}

/-! ## What is in the directory for weights -/

/-- Whether there is a directory for weights. -/
def HasWeightsDir (s : Snapshot) (t : FileTree) : Prop :=
  t.node? (t.intended s.root ++ ["weights"]) = some .directory

/-- Whether anything has the name of a weight file of a document. -/
def HasWeights (s : Snapshot) (t : FileTree) (space : Space) (doc : DocId) : Prop :=
  ∃ name n, weightsDoc? space name = some doc ∧
    t.nodes[t.intended s.root ++ ["weights"] ++ [name]]? = some n

/-- Whether everything that has the name of a weight file is a text. -/
def WeightsAreTexts (s : Snapshot) (t : FileTree) : Prop :=
  ∀ space name doc n, weightsDoc? space name = some doc →
    t.nodes[t.intended s.root ++ ["weights"] ++ [name]]? = some n →
      ∃ text : String, n = .file text.toUTF8

theorem not_hasWeights_of_fresh (h : t.Fresh s.root) {doc : DocId} : ¬ s.HasWeights t space doc := by
  rintro ⟨name, n, -, hn⟩
  have hfree := h.free (["weights"] ++ [name]) (by simp)
  rw [← List.append_assoc, FileTree.node?_eq_getElem? (by simp), hn] at hfree
  cases hfree

/-- The documents of a space that was loaded are those with weight files. -/
theorem exists_vector_iff_hasWeights {sp : TermSpace Binary64}
    (hload : s.loadSpace t space = .ok sp) {doc : DocId} :
    (∃ v, sp.vectors[doc]? = some v) ↔ s.HasWeights t space doc :=
  (at_of_loadSpace hload).exists_getElem?_vectors_iff hload

/-- With a lemma table and a directory for weights, a model is loaded exactly if all weights are
texts. -/
theorem exists_loadModel_iff (h : s.At (t.intended s.root) t)
    (htable : ∃ table, s.loadLemmaTable t = .ok table) :
    (∃ m, s.loadModel t = .ok m) ↔ s.WeightsAreTexts t := by
  have hspaces : s.WeightsAreTexts t ↔ ∀ space, ∃ sp, s.loadSpace t space = .ok sp :=
    forall_congr' fun space => h.exists_loadSpace_iff.symm
  rw [hspaces]
  constructor
  · rintro ⟨m, hm⟩ space
    exact ⟨_, loadSpace_of_loadModel hm space⟩
  · intro hload
    obtain ⟨table, htable⟩ := htable
    obtain ⟨tokens, htokens⟩ := hload .tokens
    obtain ⟨lemmas, hlemmas⟩ := hload .lemmas
    exact ⟨⟨tokens, lemmas, table⟩, loadModel_eq_ok_iff.2 ⟨htable, htokens, hlemmas⟩⟩

theorem weightsAreTexts_of_loadModel {m : Model Binary64} (hm : s.loadModel t = .ok m) :
    s.WeightsAreTexts t := by
  have hat := at_of_loadSpace (loadSpace_of_loadModel hm .tokens)
  exact (exists_loadModel_iff hat ⟨_, (loadModel_eq_ok_iff.1 hm).1⟩).1 ⟨m, hm⟩

end Snapshot

namespace Commands

open Snapshot

/-! ## What a run leaves there -/

section Run

variable {now : String} {c : Corpus} {corpus output : Path} {t t' : FileTree}
  (hread : Corpus.read t corpus = .ok c) (hs : (writeWeights now corpus output).Yields t () t')
include hread hs

theorem intended_of_writeWeights : t'.intended output = t.intended output := by
  obtain ⟨-, t₀, hmore, rfl⟩ := exists_putFiles_of_writeWeights hread hs
  unfold FileTree.intended
  rw [FileTree.workDir_putFiles, hmore.workDir]

/-- After a run, weights are there that it wrote or that were there before. -/
theorem hasWeights_writeWeights_iff (htexts : WeightsAreTexts ⟨output⟩ t') {space : Space}
    {doc : DocId} : HasWeights ⟨output⟩ t' space doc ↔
      (∃ w ∈ weightsOf c, w.doc = doc ∧ (Corpus.recordsIn w space).isSome) ∨
        HasWeights ⟨output⟩ t space doc := by
  have hintended := intended_of_writeWeights hread hs
  unfold WeightsAreTexts at htexts
  unfold HasWeights
  simp only [hintended] at htexts ⊢
  obtain ⟨-, t₀, hmore, rfl⟩ := exists_putFiles_of_writeWeights hread hs
  constructor
  · rintro ⟨name, n, hname, hn⟩
    obtain ⟨text, rfl⟩ := htexts space name doc n hname hn
    rcases FileTree.mem_of_getElem?_putFiles hn with ⟨f, hf, hplace, -⟩ | hn
    · obtain ⟨w, hw, hdoc, rs, hrs, -⟩ := eq_of_mem_runEntries hf hplace hname
      exact .inl ⟨w, hw, hdoc, Option.isSome_iff_exists.2 ⟨rs, hrs⟩⟩
    · -- a directory that was made is no text
      rcases hmore.of_getElem?_some (by simp) hn with hn | hdirectory
      · exact .inr ⟨name, _, hname, hn⟩
      · cases hdirectory
  · rintro (⟨w, hw, rfl, hsome⟩ | ⟨name, n, hname, hn⟩)
    · obtain ⟨rs, hrs⟩ := Option.isSome_iff_exists.1 hsome
      obtain ⟨n, hn⟩ := FileTree.exists_getElem?_putFiles_iff.2
        (.inl ⟨_, weightsEntry_mem_runEntries hw hrs, rfl⟩)
      exact ⟨_, n, weightsDoc?_weightsFileName space w.doc, hn⟩
    · obtain ⟨n', hn'⟩ := FileTree.exists_getElem?_putFiles_iff.2
        (.inr ⟨n, hmore.getElem?_of_some (by simp) hn⟩)
      exact ⟨name, n', hname, hn'⟩

/-- What a run wrote beside the directory for weights is read as it was written. -/
theorem readText_writeWeights {name text : String} (hname : Plain name)
    (hentry : (t.intended output ++ [name], text.toUTF8) ∈ tableEntries now c (t.intended output)) :
    t'.readText (output.join name) = .ok text := by
  obtain ⟨hroot, t₀, -, rfl⟩ := exists_putFiles_of_writeWeights hread hs
  rw [FileTree.readText_join_eq_ok_iff hname hroot.base hroot.root,
    FileTree.node?_eq_getElem? (by simp)]
  refine FileTree.getElem?_putFiles_of_mem (List.mem_append_right _ hentry) fun g hg hplace => ?_
  -- the two tables have different names
  have hg := mem_tableEntries_of_mem_runEntries hg hplace
  simp only [tableEntries, List.mem_cons, List.not_mem_nil, or_false] at hentry hg
  rcases hentry with hentry | hentry <;> rcases hg with rfl | rfl <;>
    obtain ⟨hfirst, hsecond⟩ := Prod.mk.inj hentry
  · exact hsecond.symm
  · simp [hfirst] at hplace
  · simp [hfirst] at hplace
  · exact hsecond.symm

theorem loadLemmaTable_writeWeights :
    loadLemmaTable ⟨output⟩ t' = .ok (LemmaTable.ofText c.lemmaTable.text) :=
  congrArg (Except.map LemmaTable.ofText)
    (readText_writeWeights hread hs (by decide) List.mem_cons_self)

/-- A run leaves the directory of the snapshot and the lemma table, so nothing else is needed than
weights that can be read. -/
theorem exists_loadModel_writeWeights_iff : (∃ m, loadModel ⟨output⟩ t' = .ok m) ↔
    HasWeightsDir ⟨output⟩ t' ∧ WeightsAreTexts ⟨output⟩ t' := by
  constructor
  · rintro ⟨m, hm⟩
    exact ⟨(at_of_loadSpace (loadSpace_of_loadModel hm .tokens)).weights,
      weightsAreTexts_of_loadModel hm⟩
  · rintro ⟨hdir, htexts⟩
    obtain ⟨hrooted, -⟩ := exists_putFiles_of_writeWeights hread hs
    rw [← intended_of_writeWeights hread hs] at hrooted
    exact (exists_loadModel_iff ⟨hrooted.base, hrooted.root, hdir⟩
      ⟨_, loadLemmaTable_writeWeights hread hs⟩).2 htexts

/-- With a document that has a token, there is a directory for weights after a run. -/
theorem hasWeightsDir_writeWeights (htoken : ∃ doc, c.Tokenized doc) : HasWeightsDir ⟨output⟩ t' := by
  obtain ⟨doc, hdoc⟩ := htoken
  obtain ⟨hat, -⟩ := at_of_writeWeights hread (Corpus.weights_ne_nil_of_tokenized hdoc) hs
  unfold HasWeightsDir
  rw [intended_of_writeWeights hread hs]
  exact hat.weights

/-- Without a document that has a token, a run leaves the weights as they were, and the directory for
them. -/
theorem node?_weights_writeWeights (hno : ¬∃ doc, c.Tokenized doc)
    (hway : t.isDirectory output = true ∨ ".." ∉ output.components) (rest : List String) :
    t'.node? (t.intended output ++ "weights" :: rest) =
      t.node? (t.intended output ++ "weights" :: rest) := by
  have hnil : weightsOf c = [] := List.eq_nil_iff_forall_not_mem.2 fun w hw =>
    hno ⟨w.doc, (Corpus.exists_mem_weights_iff (α := Binary64)).1 ⟨w, hw, rfl⟩⟩
  obtain ⟨-, rfl⟩ := rooted_of_writeWeights hread hnil hs
  unfold tableEntries FileTree.putFiles
  rw [List.foldl_cons, List.foldl_cons, List.foldl_nil, FileTree.node?_putFile (by simp),
    if_neg (by simp), FileTree.node?_putFile (by simp), if_neg (by simp)]
  rcases (FileTree.moreDirectories_createDirectories_stem hway).node?
    (t.intended output ++ "weights" :: rest) with hsame | ⟨-, -, hprefix⟩
  · exact hsame
  · -- what was made is not below the output
    have hlength := hprefix.length_le
    simp at hlength

theorem exists_loadModel_writeWeights_iff_of_not_tokenized (hno : ¬∃ doc, c.Tokenized doc)
    (hway : t.isDirectory output = true ∨ ".." ∉ output.components) :
    (∃ m, loadModel ⟨output⟩ t' = .ok m) ↔
      HasWeightsDir ⟨output⟩ t ∧ WeightsAreTexts ⟨output⟩ t := by
  have hweights := node?_weights_writeWeights hread hs hno hway
  rw [exists_loadModel_writeWeights_iff hread hs]
  unfold HasWeightsDir WeightsAreTexts
  simp only [intended_of_writeWeights hread hs]
  rw [hweights []]
  refine and_congr_right fun _ => forall₄_congr fun space name doc n => ?_
  have hname := hweights [name]
  rw [FileTree.node?_eq_getElem? (by simp), FileTree.node?_eq_getElem? (by simp)] at hname
  rw [List.append_assoc, List.singleton_append, hname]

/-- Weights that were texts before a run are texts after it. -/
theorem weightsAreTexts_writeWeights (htoken : ∃ doc, c.Tokenized doc)
    (hway : t.isDirectory output = true ∨ ".." ∉ output.components)
    (htexts : WeightsAreTexts ⟨output⟩ t) : WeightsAreTexts ⟨output⟩ t' := by
  have hintended := intended_of_writeWeights hread hs
  obtain ⟨doc, hdoc⟩ := htoken
  obtain ⟨-, rfl⟩ := at_of_writeWeights hread (Corpus.weights_ne_nil_of_tokenized hdoc) hs
  intro space name doc n hname hn
  rw [hintended] at hn
  rcases FileTree.mem_of_getElem?_putFiles hn with ⟨f, hf, hplace, rfl⟩ | hn
  · obtain ⟨w, -, -, rs, -, rfl⟩ := eq_of_mem_runEntries hf hplace hname
    exact ⟨_, rfl⟩
  · exact htexts space name doc n hname
      ((getElem?_createDirectories_weightsDir (s := ⟨output⟩) hway name).symm.trans hn)

section Loaded

variable {m : Model Binary64} (hm : loadModel ⟨output⟩ t' = .ok m)
include hm

theorem exists_vector_writeWeights_iff (space : Space) (doc : DocId) :
    (∃ v, (m.space space).vectors[doc]? = some v) ↔
      (∃ w ∈ weightsOf c, w.doc = doc ∧ (Corpus.recordsIn w space).isSome) ∨
        HasWeights ⟨output⟩ t space doc := by
  rw [exists_vector_iff_hasWeights (loadSpace_of_loadModel hm space),
    hasWeights_writeWeights_iff hread hs (weightsAreTexts_of_loadModel hm)]

theorem exists_token_vector_writeWeights_iff (doc : DocId) : (∃ v, m.tokens.vectors[doc]? = some v) ↔
    c.Tokenized doc ∨ HasWeights ⟨output⟩ t .tokens doc := by
  refine (exists_vector_writeWeights_iff hread hs hm .tokens doc).trans (or_congr_left ?_)
  rw [← Corpus.exists_mem_weights_iff (α := Binary64)]
  simp only [Corpus.recordsIn, Option.isSome_some, and_true]

theorem exists_lemma_vector_writeWeights_iff (doc : DocId) : (∃ v, m.lemmas.vectors[doc]? = some v) ↔
    c.Tokenized doc ∧ (c.docOf doc).lemmas.isSome ∨ HasWeights ⟨output⟩ t .lemmas doc := by
  refine (exists_vector_writeWeights_iff hread hs hm .lemmas doc).trans (or_congr_left ?_)
  rw [← Corpus.exists_mem_weights_iff (α := Binary64)]
  constructor
  · rintro ⟨w, hw, rfl, hsome⟩
    exact ⟨⟨w, hw, rfl⟩, Corpus.isSome_lemmas_of_mem_weights hw ▸ hsome⟩
  · rintro ⟨⟨w, hw, rfl⟩, hsome⟩
    exact ⟨w, hw, rfl, (Corpus.isSome_lemmas_of_mem_weights hw).trans hsome⟩

/-- There are no fewer documents than the corpus has with a token, and as many exactly if there were
no weights of others. -/
theorem totalDocs_eq_length_iff : (weightsOf c).length ≤ m.totalDocs ∧
    (m.totalDocs = (weightsOf c).length ↔
      ∀ doc, HasWeights ⟨output⟩ t .tokens doc → c.Tokenized doc) := by
  have hdocs := exists_token_vector_writeWeights_iff hread hs hm
  have hmem : ∀ doc, doc ∈ (weightsOf c).map (·.doc) ↔ c.Tokenized doc := fun doc => by
    rw [List.mem_map, ← Corpus.exists_mem_weights_iff (α := Binary64)]
  have hsize := size_eq_length_iff (m := m.tokens.vectors) Corpus.nodup_docs_weights
    fun doc hdoc => (hdocs doc).2 (.inl ((hmem doc).1 hdoc))
  simp only [List.length_map, hdocs, hmem, or_imp, imp_self, true_and] at hsize
  exact hsize

/-- The number of documents is that of the manifest exactly if there were no weights of others, and
the manifest can hold it. -/
theorem totalDocs_writeWeights_iff :
    m.totalDocs = (manifestOf now c).numDocs.toNat ↔ (weightsOf c).length < UInt32.size ∧
      ∀ doc, HasWeights ⟨output⟩ t .tokens doc → c.Tokenized doc := by
  obtain ⟨hle, hothers⟩ := totalDocs_eq_length_iff hread hs hm
  have hnum : (manifestOf now c).numDocs.toNat = (weightsOf c).length % UInt32.size :=
    UInt32.toNat_ofNat'
  rw [← hothers, hnum]
  constructor
  · intro heq
    have hlt : (weightsOf c).length % UInt32.size < UInt32.size := Nat.mod_lt _ (by decide)
    have hsmall : (weightsOf c).length < UInt32.size := by omega
    exact ⟨hsmall, heq.trans (Nat.mod_eq_of_lt hsmall)⟩
  · rintro ⟨hsmall, heq⟩
    rw [heq, Nat.mod_eq_of_lt hsmall]

end Loaded

end Run

/-- Writing the weights of a corpus takes no weights away that were there before. If a document has a
token, a model can be loaded afterwards exactly if everything with the name of a weight file is a
text, as what the run wrote is; if none has one, exactly if there was a directory for weights before
and everything in it with such a name is a text. The documents of a model that is loaded are those
with a token, in the space of the lemmas those that have lemmas too, and all that had weights before.
The manifest is saved last. The number of documents is the one in the manifest exactly if there were
no weights of documents without a token, and it is below 2^32. -/
theorem loadModel_writeWeights {now : String} {corpus output : Path} {t t' : FileTree} {c : Corpus}
    (hread : Corpus.read t corpus = .ok c) (hs : (writeWeights now corpus output).Yields t () t') :
    ((∃ doc, c.Tokenized doc) →
      ((∃ m, loadModel ⟨output⟩ t' = .ok m) ↔ WeightsAreTexts ⟨output⟩ t') ∧
      (WeightsAreTexts ⟨output⟩ t → t.isDirectory output = true ∨ ".." ∉ output.components →
        WeightsAreTexts ⟨output⟩ t')) ∧
    ((¬∃ doc, c.Tokenized doc) →
      ((∃ m, loadModel ⟨output⟩ t' = .ok m) ↔
        HasWeightsDir ⟨output⟩ t' ∧ WeightsAreTexts ⟨output⟩ t') ∧
      (t.isDirectory output = true ∨ ".." ∉ output.components →
        ((∃ m, loadModel ⟨output⟩ t' = .ok m) ↔
          HasWeightsDir ⟨output⟩ t ∧ WeightsAreTexts ⟨output⟩ t))) ∧
    (∃ t₁, (saveManifest ⟨output⟩ (manifestOf now c)).Yields t₁ () t') ∧
    ∀ m, loadModel ⟨output⟩ t' = .ok m →
      (∀ doc, (∃ v, m.tokens.vectors[doc]? = some v) ↔
        c.Tokenized doc ∨ HasWeights ⟨output⟩ t .tokens doc) ∧
      (∀ doc, (∃ v, m.lemmas.vectors[doc]? = some v) ↔
        c.Tokenized doc ∧ (c.docOf doc).lemmas.isSome ∨ HasWeights ⟨output⟩ t .lemmas doc) ∧
      (m.totalDocs = (manifestOf now c).numDocs.toNat ↔ (weightsOf c).length < UInt32.size ∧
        ∀ doc, HasWeights ⟨output⟩ t .tokens doc → c.Tokenized doc) := by
  have hload : _ ↔ HasWeightsDir ⟨output⟩ t' ∧ WeightsAreTexts ⟨output⟩ t' :=
    exists_loadModel_writeWeights_iff hread hs
  refine ⟨fun htoken => ⟨?_, fun htexts hway =>
      weightsAreTexts_writeWeights hread hs htoken hway htexts⟩,
    fun hno => ⟨hload, exists_loadModel_writeWeights_iff_of_not_tokenized hread hs hno⟩, ?_,
    fun _ hm => ⟨exists_token_vector_writeWeights_iff hread hs hm,
      exists_lemma_vector_writeWeights_iff hread hs hm, totalDocs_writeWeights_iff hread hs hm⟩⟩
  · rw [hload]
    exact and_iff_right (hasWeightsDir_writeWeights hread hs htoken)
  · obtain ⟨-, t₁, -, -, hmanifest⟩ := exists_of_writeWeights hread hs
    exact ⟨t₁, Change.yields_mapError.1 hmanifest⟩

theorem loadModel_writeWeights_fresh : ∃ c t' m,
    Corpus.read (tokenTree "cat\n") ⟨"corpus"⟩ = .ok c ∧
      (writeWeights "" ⟨"corpus"⟩ ⟨"out"⟩).Yields (tokenTree "cat\n") () t' ∧
      loadModel ⟨⟨"out"⟩⟩ t' = .ok m ∧ (∃ v, m.tokens.vectors[(1 : DocId)]? = some v) ∧
      m.totalDocs = (manifestOf "" c).numDocs.toNat := by
  obtain ⟨c, hread, hc⟩ := exists_eq_ok_of_any (r := Corpus.read (tokenTree "cat\n") ⟨"corpus"⟩)
    (P := fun c => decide ((c.docOf 1).tokens.getD [] ≠ []) &&
      decide ((weightsOf c).length < UInt32.size)) (by decide +kernel)
  rw [Bool.and_eq_true, decide_eq_true_eq, decide_eq_true_eq] at hc
  have hyields : (writeWeights "" ⟨"corpus"⟩ ⟨"out"⟩).Yields (tokenTree "cat\n") () _ :=
    Change.yields_of_isOk (by decide +kernel)
  obtain ⟨m, hm, -⟩ := exists_eq_ok_of_any (P := fun _ => true)
    (r := loadModel ⟨⟨"out"⟩⟩ (writeWeights "" ⟨"corpus"⟩ ⟨"out"⟩ (tokenTree "cat\n")).2)
    (by decide +kernel)
  -- nothing is below the directory, so there were no weights
  have hnone : ∀ doc, ¬ HasWeights ⟨⟨"out"⟩⟩ (tokenTree "cat\n") .tokens doc := by
    rintro doc ⟨name, n, -, hn⟩
    have hfree := (fresh_tokenTree "cat\n").free (["weights"] ++ [name]) (by simp)
    rw [← List.append_assoc, FileTree.node?_eq_getElem? (by simp), hn] at hfree
    cases hfree
  obtain ⟨-, -, -, hloaded⟩ := loadModel_writeWeights hread hyields
  obtain ⟨htokens, -, htotal⟩ := hloaded m hm
  exact ⟨c, _, m, hread, hyields, hm, (htokens 1).2 (.inl hc.1),
    htotal.2 ⟨hc.2, fun doc hdoc => absurd hdoc (hnone doc)⟩⟩

/-- A tree with the token `cat` of the document 1, and with weights of the document 9 where the
output goes. -/
def staleTree : FileTree :=
  ((tokenTree "cat\n").putDirectory ["out", "weights"]).putFile ["out", "weights", "tfidf_tokens9.txt"]
    "old 0.1 0.2\n".toUTF8

theorem getElem?_staleTree {name : String} {n : Node} :
    staleTree.nodes[staleTree.intended ⟨"out"⟩ ++ ["weights"] ++ [name]]? = some n ↔
      name = "tfidf_tokens9.txt" ∧ n = .file "old 0.1 0.2\n".toUTF8 := by
  rw [intended_out rfl, ← FileTree.node?_eq_getElem? (by simp), staleTree,
    FileTree.node?_putFile (by simp)]
  by_cases hname : name = "tfidf_tokens9.txt"
  · rw [if_pos (by rw [hname]; rfl), Option.some.injEq, eq_comm]
    exact (and_iff_right hname).symm
  · -- nothing else is below the directory for weights
    rw [if_neg (by simpa using hname), FileTree.node?_putDirectory, if_neg (by simp), tokenTree,
      FileTree.node?_putFile (by simp), if_neg (by simp), FileTree.node?_putDirectory, if_neg (by simp)]
    refine iff_of_false ?_ fun h => hname h.1
    rintro ⟨⟩

/-- The document 9 is loaded beside the document 1, of which alone the manifest tells. -/
theorem loadModel_writeWeights_stale : ∃ c t' m, Corpus.read staleTree ⟨"corpus"⟩ = .ok c ∧
    (weightsOf c).map (·.doc) = [1] ∧
      (writeWeights "" ⟨"corpus"⟩ ⟨"out"⟩).Yields staleTree () t' ∧ loadModel ⟨⟨"out"⟩⟩ t' = .ok m ∧
      ¬ c.Tokenized 9 ∧ (∃ v, m.tokens.vectors[(9 : DocId)]? = some v) ∧
      m.totalDocs ≠ (manifestOf "" c).numDocs.toNat := by
  obtain ⟨c, hread, hc⟩ := exists_eq_ok_of_any (r := Corpus.read staleTree ⟨"corpus"⟩)
    (P := fun c => decide ((weightsOf c).map (·.doc) = [1])) (by decide +kernel)
  rw [decide_eq_true_eq] at hc
  have hyields : (writeWeights "" ⟨"corpus"⟩ ⟨"out"⟩).Yields staleTree () _ :=
    Change.yields_of_isOk (by decide +kernel)
  have htokenized : ∀ doc, c.Tokenized doc ↔ doc = 1 := fun doc => by
    rw [← Corpus.exists_mem_weights_iff (α := Binary64), ← List.mem_map, hc, List.mem_singleton]
  have htoken : ∃ doc, c.Tokenized doc := ⟨1, (htokenized 1).2 rfl⟩
  have hnine : ¬ c.Tokenized 9 := fun h => absurd ((htokenized 9).1 h) (by decide)
  have htexts : WeightsAreTexts ⟨⟨"out"⟩⟩ staleTree := fun space name doc n _ hn =>
    ⟨_, (getElem?_staleTree.1 hn).2⟩
  have hstale : HasWeights ⟨⟨"out"⟩⟩ staleTree .tokens 9 :=
    ⟨"tfidf_tokens9.txt", _, by decide +kernel, getElem?_staleTree.2 ⟨rfl, rfl⟩⟩
  obtain ⟨m, hm⟩ := (exists_loadModel_writeWeights_iff hread hyields).2
    ⟨hasWeightsDir_writeWeights hread hyields htoken,
      weightsAreTexts_writeWeights hread hyields htoken (.inr (by decide +kernel)) htexts⟩
  exact ⟨c, _, m, hread, hc, hyields, hm, hnine,
    (exists_token_vector_writeWeights_iff hread hyields hm 9).2 (.inr hstale),
    fun heq => hnine (((totalDocs_writeWeights_iff hread hyields hm).1 heq).2 9 hstale)⟩

end Commands

end DocSearch
