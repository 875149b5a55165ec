/-
Saving the parts of a snapshot. A file's directories are made first, and stay if the file itself
cannot be written.
-/
import DocSearch.LinkGraph.Record
import DocSearch.Manifest.Printer
import DocSearch.Postings.Record
import DocSearch.Snapshot.Error
import DocSearch.Snapshot.Layout
import DocSearch.WeightFile

namespace DocSearch

/-- A change of the file tree that can fail; what was changed before a failure stays changed. -/
abbrev Change (ε β : Type) := ExceptT ε (StateM FileTree) β

namespace Change

/-- Runs a step that gives a new tree or fails without a change. -/
def attempt {ε : Type} (step : FileTree → Except ε FileTree) : Change ε Unit :=
  fun t => match step t with
    | .ok t' => (.ok (), t')
    | .error e => (.error e, t)

/-- Runs a step that only looks at the tree. -/
def query {ε β : Type} (look : FileTree → Except ε β) : Change ε β := fun t => (look t, t)

/-- Changes the failures of a step. -/
def mapError {ε ε' β : Type} (f : ε → ε') (c : Change ε β) : Change ε' β :=
  fun t => let (r, t') := c t; (r.mapError f, t')

/-- Writes a text to a file, making its directories. -/
def saveText (p : Path) (text : String) : Change LoadError Unit := do
  match p.parent? with
  | some dir => mapError (.file dir) fun t => t.createDirectories dir
  | none => pure ()
  attempt fun t => (t.write p text.toUTF8).mapError (.file p)

end Change

namespace Snapshot

/-- Saves the inverted index. -/
def saveIndex (s : Snapshot) (p : Postings) : Change LoadError Unit :=
  Change.saveText s.invertedIndex p.text

/-- Saves the lemma table. -/
def saveLemmaTable (s : Snapshot) (t : LemmaTable) : Change LoadError Unit :=
  Change.saveText s.lemmaMap t.text

/-- Saves the weights of a document. -/
def saveWeights (s : Snapshot) (space : Space) (doc : DocId) (rs : List (WeightRecord Binary64)) :
    Change LoadError Unit :=
  Change.saveText (s.weightsFile space doc) (WeightFile.text rs)

/-- Saves the link graph. -/
def saveLinkGraph (s : Snapshot) (g : LinkGraph) : Change LoadError Unit :=
  Change.saveText s.links g.text

/-- Saves the manifest. -/
def saveManifest (s : Snapshot) (m : Manifest) : Change LoadError Unit :=
  Change.saveText s.manifest m.text

end Snapshot

end DocSearch
