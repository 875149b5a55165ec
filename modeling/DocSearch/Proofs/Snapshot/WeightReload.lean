/-
Writing the weights of a corpus and loading the term space of the tokens. The space has exactly the
documents with weights. A document has the vector that its records describe exactly if they keep
apart as lines; otherwise terms are lost, merged or read as others.
-/
import DocSearch.Proofs.Snapshot.SpaceLoad

namespace DocSearch

open DocSearch.Path Text

/-! ## Loading -/

namespace Snapshot

variable {s : Snapshot} {t : FileTree} {place : List String}

section Load

variable {space : Space} {files : List (DocId × String)} (h : s.At place t)
  (hfiles : ∀ f ∈ files,
    t.nodes[place ++ ["weights"] ++ [weightsFileName space f.1]]? = some (.file f.2.toUTF8))
include hfiles

/-- The files of a space hold one text for each document. -/
theorem text_unique {f g : DocId × String} (hf : f ∈ files) (hg : g ∈ files) (hdoc : g.1 = f.1) :
    g.2 = f.2 := by
  have hnode := hfiles g hg
  rw [hdoc, hfiles f hf, Option.some.injEq, Node.file.injEq] at hnode
  exact (toUTF8_inj hnode).symm

variable (hnames : ∀ name doc n, weightsDoc? space name = some doc →
  t.nodes[place ++ ["weights"] ++ [name]]? = some n →
  name = weightsFileName space doc ∧ ∃ f ∈ files, f.1 = doc)
include h hnames

/-- Loading a snapshot in which the weight files of a space are the given ones: each document has the
vector of its text, and there are no other documents. -/
theorem loadSpace_of_files : ∃ sp, s.loadSpace t space = .ok sp ∧
    (∀ f ∈ files, sp.vectors[f.1]? = some (TermVector.ofRecords (WeightFile.ofText f.2))) ∧
    ∀ doc v, sp.vectors[doc]? = some v → ∃ f ∈ files, f.1 = doc := by
  obtain ⟨sp, hload⟩ := h.exists_loadSpace_iff.2 fun name doc n hname hn => by
    obtain ⟨rfl, f, hf, rfl⟩ := hnames name doc n hname hn
    exact ⟨f.2, Option.some.inj (hn.symm.trans (hfiles f hf))⟩
  obtain ⟨texts, hsp, hmem⟩ := h.exists_texts_of_loadSpace hload
  -- the files are read in the order of their documents, whatever order they are given in
  have hsame : ∀ f, f ∈ texts ↔ f ∈ files := by
    intro f
    rw [hmem]
    constructor
    · rintro ⟨name, hname, hn⟩
      obtain ⟨rfl, g, hg, hdoc⟩ := hnames name f.1 _ hname hn
      have hnode := hfiles g hg
      rw [hdoc, hn, Option.some.injEq, Node.file.injEq] at hnode
      exact Prod.ext hdoc (toUTF8_inj hnode).symm ▸ hg
    · intro hf
      exact ⟨_, weightsDoc?_weightsFileName space f.1, hfiles f hf⟩
  refine ⟨sp, hload, fun f hf => ?_, fun doc v hv => ?_⟩
  · rw [← hsp]
    refine TermSpace.getElem?_vectors_of_mem (List.mem_map.2 ⟨f, (hsame f).2 hf, rfl⟩) fun d hd hdoc => ?_
    obtain ⟨g, hg, rfl⟩ := List.mem_map.1 hd
    exact congrArg WeightFile.ofText (text_unique hfiles hf ((hsame g).1 hg) hdoc)
  · obtain ⟨name, n, hname, hn⟩ := (h.exists_getElem?_vectors_iff hload).1 ⟨v, hv⟩
    exact (hnames name doc n hname hn).2

end Load

end Snapshot

/-! ## The command and the loader -/

namespace Commands

variable {now : String} {c : Corpus} {place : List String}

section Files

variable {t₀ : FileTree} (hfree : ∀ name, t₀.nodes[place ++ ["weights"] ++ [name]]? = none)

/-- What a run leaves at the name for the tokens of a document with weights. -/
theorem getElem?_runEntries {w : Corpus.DocWeights Binary64} (hw : w ∈ weightsOf c) :
    (t₀.putFiles (runEntries now c place)).nodes[place ++ ["weights"] ++
      [Snapshot.weightsFileName .tokens w.doc]]? = some (.file (WeightFile.text w.tokens).toUTF8) := by
  refine FileTree.getElem?_putFiles_of_mem (weightsEntry_mem_runEntries hw rfl) fun g hg hplace => ?_
  obtain ⟨w', hw', hdoc, rs, hrs, rfl⟩ :=
    eq_of_mem_runEntries hg hplace (Snapshot.weightsDoc?_weightsFileName _ _)
  rw [Corpus.eq_of_mem_weights hw' hw hdoc] at hrs
  cases hrs
  rfl

include hfree

/-- Whatever has the name of a weight file for tokens is one of those that a run leaves. -/
theorem of_getElem?_runEntries {name : String} {doc : DocId} {n : Node}
    (hname : Snapshot.weightsDoc? .tokens name = some doc)
    (hn : (t₀.putFiles (runEntries now c place)).nodes[place ++ ["weights"] ++ [name]]? = some n) :
    name = Snapshot.weightsFileName .tokens doc ∧ ∃ w ∈ weightsOf c, w.doc = doc := by
  rcases FileTree.mem_of_getElem?_putFiles hn with ⟨f, hf, hplace, -⟩ | hn
  · obtain ⟨w, hw, hdoc, rs, -, rfl⟩ := eq_of_mem_runEntries hf hplace hname
    exact ⟨(List.singleton_inj.1 (List.append_cancel_left hplace)).symm, w, hw, hdoc⟩
  · rw [hfree name] at hn
    cases hn

end Files

/-- When the weights of a corpus with a token have been written to a fresh directory, the space of
the tokens is loaded: it has exactly the documents with weights. A document whose numbers are finite
has the printed weight of each of its tokens at the token in lowercase, and no other entries,
exactly if no token of it has a blank and tokens that differ in case only have the same printed
weight. -/
theorem loadSpace_writeWeights {corpus output : Path} {t t' : FileTree}
    (hread : Corpus.read t corpus = .ok c) (htoken : ∃ doc token, token ∈ (c.docOf doc).tokens.getD [])
    (hfresh : t.Fresh output) (hs : (writeWeights now corpus output).Yields t () t') :
    ∃ sp, Snapshot.loadSpace ⟨output⟩ t' .tokens = .ok sp ∧
      (∀ doc, (∃ v, sp.vectors[doc]? = some v) ↔ ∃ w ∈ weightsOf c, w.doc = doc) ∧
      ∀ w ∈ weightsOf c, (∀ r ∈ w.tokens, WeightFile.IsFinite r) → ∃ v, sp.vectors[w.doc]? = some v ∧
        (WeightFile.Describes w.tokens v ↔ WeightFile.Apart w.tokens) := by
  obtain ⟨doc, token, htoken⟩ := htoken
  obtain ⟨t₀, place, hat, hfree, rfl⟩ :=
    putFiles_of_writeWeights hread (Corpus.weights_ne_nil htoken) hfresh hs
  have hfiles : ∀ f ∈ (weightsOf c).map fun w => (w.doc, WeightFile.text w.tokens),
      (t₀.putFiles (runEntries now c place)).nodes[place ++ ["weights"] ++
        [Snapshot.weightsFileName .tokens f.1]]? = some (.file f.2.toUTF8) := fun f hf => by
    obtain ⟨w, hw, rfl⟩ := List.mem_map.1 hf
    exact getElem?_runEntries hw
  obtain ⟨sp, hload, hvectors, hdocs⟩ := Snapshot.loadSpace_of_files hat hfiles
    fun name doc n hname hn => by
      obtain ⟨hsame, w, hw, hdoc⟩ := of_getElem?_runEntries hfree hname hn
      exact ⟨hsame, _, List.mem_map_of_mem hw, hdoc⟩
  have hvector : ∀ w ∈ weightsOf c, sp.vectors[w.doc]? = some (WeightFile.reload w.tokens) :=
    fun w hw => hvectors _ (List.mem_map_of_mem hw)
  refine ⟨sp, hload, fun doc => ⟨?_, ?_⟩, fun w hw hfinite => ⟨_, hvector w hw, ?_⟩⟩
  · rintro ⟨v, hv⟩
    obtain ⟨f, hf, hdoc⟩ := hdocs doc v hv
    obtain ⟨w, hw, rfl⟩ := List.mem_map.1 hf
    exact ⟨w, hw, hdoc⟩
  · rintro ⟨w, hw, rfl⟩
    exact ⟨_, hvector w hw⟩
  · exact WeightFile.describes_reload_iff hfinite fun r hr =>
      Corpus.term_of_mem_weights (Corpus.ofTexts_of_read hread) hw hr

/-- A tree with a file of tokens, of the document 1. -/
def tokenTree (text : String) : FileTree :=
  (FileTree.empty.putDirectory ["corpus"]).putFile ["corpus", "tokens1.txt"] text.toUTF8

theorem intended_out {t : FileTree} (h : t.workDir = []) : t.intended ⟨"out"⟩ = ["out"] := by
  rw [FileTree.intended, h, ite_self, show (⟨"out"⟩ : Path).components = ["out"] by decide]
  rfl

theorem fresh_tokenTree (text : String) : (tokenTree text).Fresh ⟨"out"⟩ where
  free rest _ := by
    rw [intended_out rfl, tokenTree, FileTree.node?_putFile (by simp), if_neg (by simp),
      FileTree.node?_putDirectory, if_neg (by simp)]
    rfl
  way := .inr (by decide)

theorem loadSpace_writeWeights_cat : ∃ c t' sp,
    Corpus.read (tokenTree "Cat\n") ⟨"corpus"⟩ = .ok c ∧
      (∃ doc token, token ∈ (c.docOf doc).tokens.getD []) ∧ (tokenTree "Cat\n").Fresh ⟨"out"⟩ ∧
      (writeWeights "" ⟨"corpus"⟩ ⟨"out"⟩).Yields (tokenTree "Cat\n") () t' ∧
      Snapshot.loadSpace ⟨⟨"out"⟩⟩ t' .tokens = .ok sp ∧
      ∃ w ∈ weightsOf c, (∀ r ∈ w.tokens, WeightFile.IsFinite r) ∧
        ∃ v, sp.vectors[w.doc]? = some v ∧ WeightFile.Describes w.tokens v := by
  have hcorpus : (Corpus.read (tokenTree "Cat\n") ⟨"corpus"⟩).toOption.any (fun c =>
      decide ("Cat" ∈ (c.docOf 1).tokens.getD []) && (weightsOf c).any fun w =>
        decide (∀ r ∈ w.tokens, WeightFile.IsFinite r) && decide (WeightFile.Apart w.tokens)) = true := by
    decide +kernel
  have hyields : (writeWeights "" ⟨"corpus"⟩ ⟨"out"⟩).Yields (tokenTree "Cat\n") () _ :=
    Change.yields_of_isOk (by decide +kernel)
  cases hread : Corpus.read (tokenTree "Cat\n") ⟨"corpus"⟩ with
  | error e => rw [hread] at hcorpus; cases hcorpus
  | ok c =>
    rw [hread] at hcorpus
    simp only [Except.toOption, Option.any_some, Bool.and_eq_true, List.any_eq_true,
      decide_eq_true_eq] at hcorpus
    obtain ⟨htoken, w, hw, hfinite, hapart⟩ := hcorpus
    obtain ⟨sp, hload, -, hvectors⟩ :=
      loadSpace_writeWeights hread ⟨1, "Cat", htoken⟩ (fresh_tokenTree "Cat\n") hyields
    obtain ⟨v, hv, hdescribes⟩ := hvectors w hw hfinite
    exact ⟨c, _, sp, rfl, ⟨1, "Cat", htoken⟩, fresh_tokenTree "Cat\n", hyields, hload, w, hw, hfinite,
      v, hv, hdescribes.2 hapart⟩

/-- The token `new york` has a weight, and the vector that is loaded has no entry. -/
theorem loadSpace_writeWeights_blank :
    (Corpus.read (tokenTree "new york\n") ⟨"corpus"⟩).toOption.map
        (fun c => (weightsOf c).map fun w => (w.doc, w.tokens.map (·.term))) =
      some [(1, ["new york"])] ∧
    (writeWeights "" ⟨"corpus"⟩ ⟨"out"⟩ (tokenTree "new york\n")).1.isOk ∧
    (Snapshot.loadSpace ⟨⟨"out"⟩⟩ (writeWeights "" ⟨"corpus"⟩ ⟨"out"⟩ (tokenTree "new york\n")).2
        .tokens).toOption.map
        (fun sp => sp.vectors.toList.map fun d => (d.1, d.2.toList.map (·.1))) = some [(1, [])] := by
  refine ⟨?_, ?_, ?_⟩ <;> decide +kernel

end Commands

end DocSearch
