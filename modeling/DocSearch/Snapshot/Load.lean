/-
Loading the parts of a snapshot. A part that is missing or is not UTF-8 is an error; a bad line is
skipped by the part's own reader. The manifest and the link graph need not be there.
-/
import DocSearch.Authority
import DocSearch.Defaults
import DocSearch.DocumentList
import DocSearch.FileTree.Basic
import DocSearch.LinkGraph.Record
import DocSearch.Manifest.Reader
import DocSearch.Postings.Record
import DocSearch.Snapshot.Error
import DocSearch.Snapshot.Layout
import DocSearch.Text.Utf8
import DocSearch.WeightFile

namespace DocSearch

/-- The text of a file. -/
def FileTree.readText (t : FileTree) (p : Path) : Except LoadError String := do
  let bytes ← (t.read p).mapError (.file p)
  match Text.decode? bytes with
  | some s => .ok s
  | none => .error (.file p .notUtf8)

/-- The documents that a file lists. -/
def FileTree.loadDocuments (t : FileTree) (p : Path) : Except LoadError (List DocumentEntry) :=
  (t.readText p).map DocumentEntry.listOfText

namespace Snapshot

/-- Loads the inverted index. -/
def loadIndex (s : Snapshot) (t : FileTree) : Except LoadError Postings :=
  (t.readText s.invertedIndex).map Postings.ofText

/-- Loads the lemma table. -/
def loadLemmaTable (s : Snapshot) (t : FileTree) : Except LoadError LemmaTable :=
  (t.readText s.lemmaMap).map LemmaTable.ofText

/-! ## Term spaces -/

/-- The weight files of a space among the names of a directory, by ascending document. -/
def weightFiles (space : Space) (names : List String) : List (DocId × String) :=
  (names.filterMap fun name => (weightsDoc? space name).map (·, name)).mergeSort
    fun a b => a.1 ≤ b.1

/-- The term space of weight files, given by document and text in that order. -/
def spaceOfTexts (files : List (DocId × String)) : TermSpace Binary64 :=
  TermSpace.ofDocuments (files.map fun f => (f.1, WeightFile.ofText f.2))

/-- Loads a term space from the weight files among `names`, whatever order they are listed in. -/
def loadListedSpace (s : Snapshot) (t : FileTree) (space : Space) (names : List String) :
    Except LoadError (TermSpace Binary64) := do
  let files ← (weightFiles space names).mapM fun f =>
    (t.readText (s.weightsDir.join f.2)).map (f.1, ·)
  .ok (spaceOfTexts files)

/-- Loads a term space. -/
def loadSpace (s : Snapshot) (t : FileTree) (space : Space) :
    Except LoadError (TermSpace Binary64) := do
  let entries ← (t.listDirectory s.weightsDir).mapError (.file s.weightsDir)
  s.loadListedSpace t space (entries.map (·.1))

/-- Loads the vector model. -/
def loadModel (s : Snapshot) (t : FileTree) : Except LoadError (Model Binary64) := do
  let table ← s.loadLemmaTable t
  let tokens ← s.loadSpace t .tokens
  let lemmas ← s.loadSpace t .lemmas
  .ok ⟨tokens, lemmas, table⟩

/-! ## Optional parts -/

/-- Loads the link graph, with every listed document as a node, unless there is none. -/
def loadLinkGraph (s : Snapshot) (t : FileTree) : Except LoadError (Option LinkGraph) := do
  if t.exists? s.links then
    let g := LinkGraph.ofText (← t.readText s.links)
    let docs ← if t.exists? s.documents then t.loadDocuments s.documents else .ok []
    .ok (some (docs.foldl (fun g d => g.addNode d.doc) g))
  else .ok none

/-- Loads the manifest, unless there is none. -/
def loadManifest (s : Snapshot) (t : FileTree) : Except LoadError (Option Manifest) :=
  if t.exists? s.manifest then
    match t.read s.manifest with
    | .ok bytes => ((Manifest.ofBytes bytes).mapError .manifest).map some
    | .error .isDirectory => .error (.manifest .unreadable)
    | .error cause => .error (.file s.manifest cause)
  else .ok none

/-! ## What sessions run on -/

/-- How documents get their authority. -/
inductive AuthorityMode where
  | pageRank
  | linkCounts
  | none
  deriving DecidableEq, Repr

/-- Loads the authority of the documents, if it is wanted and there is a link graph. -/
def loadAuthority (s : Snapshot) (t : FileTree) (mode : AuthorityMode) :
    Except Failure (Option (Authority Binary64)) :=
  match mode with
  | .none => .ok none
  | .linkCounts => do .ok ((← orFail (s.loadLinkGraph t)).map Authority.linkCounts)
  | .pageRank => do
    .ok ((← orFail (s.loadLinkGraph t)).map (Authority.pageRank · PageRankConfig.standard))

/-- Loads the inverted index for boolean queries. -/
def loadBoolean (s : Snapshot) (t : FileTree) : Except Failure Postings :=
  inContext ("loading inverted index from " ++ s.root.text) (orFail (s.loadIndex t))

/-- Loads the engine for ranked queries. The manifest, if there is one, must be readable. -/
def loadEngine (s : Snapshot) (t : FileTree) (mode : AuthorityMode) :
    Except Failure (Engine Binary64) := do
  let _ ← orFail (s.loadManifest t)
  let model ← inContext ("loading term vectors from " ++ s.root.text) (orFail (s.loadModel t))
  let authority ← s.loadAuthority t mode
  .ok ⟨model, authority, RankingConfig.standard⟩

end Snapshot

end DocSearch
