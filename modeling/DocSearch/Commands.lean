/-
The commands that build a snapshot. Each reads all its inputs before it writes anything; what it
wrote before a failure stays.
-/
import DocSearch.Anchors
import DocSearch.Corpus.Tables
import DocSearch.Corpus.Weights
import DocSearch.Snapshot.Load
import DocSearch.Snapshot.Save

namespace DocSearch.Commands

/-- A command: a change of the file tree. -/
abbrev Command := Change Failure Unit

/-- The version that manifests state. -/
def snapshotVersion : UInt32 := 1

/-- Reads the corpus of a directory. -/
def readCorpus (dir : Path) : Change Failure Corpus := Change.query fun t => Corpus.read t dir

/-- Saves a part of a snapshot. -/
def save (c : Change LoadError Unit) : Command := Change.mapError .load c

/-- Writes the inverted index of a corpus. -/
def buildIndex (corpus output : Path) : Command := do
  let c ← readCorpus corpus
  save (Snapshot.saveIndex ⟨output⟩ c.invertedIndex)

/-- Saves the weights of a document. -/
def saveDocWeights (s : Snapshot) (w : Corpus.DocWeights Binary64) : Command := do
  save (s.saveWeights .tokens w.doc w.tokens)
  match w.lemmas with
  | some rs => save (s.saveWeights .lemmas w.doc rs)
  | none => pure ()

/-- Saves the weights of documents one after another. -/
def saveAllWeights (s : Snapshot) : List (Corpus.DocWeights Binary64) → Command
  | [] => pure ()
  | w :: ws => do
    saveDocWeights s w
    saveAllWeights s ws

/-- Writes the weights, the lemma table and the manifest of a corpus; `now` is the time that the
manifest states. -/
def writeWeights (now : String) (corpus output : Path) : Command := do
  let s : Snapshot := ⟨output⟩
  let c ← readCorpus corpus
  let ws : List (Corpus.DocWeights Binary64) := c.weights
  saveAllWeights s ws
  save (s.saveLemmaTable c.lemmaTable)
  save (s.saveManifest ⟨.ofNat ws.length, now, snapshotVersion⟩)

/-- Copies a file over another. -/
def copyFile (source target : Path) : Command :=
  Change.attempt fun t => do
    let bytes ← (t.read source).mapError .io
    (t.write target bytes).mapError .io

/-- Writes the link graph of stored pages, and puts the document list beside it unless it is there
already. -/
def writeLinks (pages metadata output : Path) (U : Type := Url) [DecidableEq U] [Address U] :
    Command := do
  let s : Snapshot := ⟨output⟩
  let docs ← Change.query fun t =>
    inContext ("reading document list " ++ metadata.text) (orFail (t.loadDocuments metadata))
  let g ← Change.query fun t => .ok (Anchors.linkGraph (t.filesAt pages) docs U)
  save (s.saveLinkGraph g)
  let same ← Change.query fun t => .ok (decide (t.canonical? metadata = t.canonical? s.documents))
  if same then pure ()
  else Change.mapError (.context ("copying " ++ metadata.text)) (copyFile metadata s.documents)

end DocSearch.Commands
