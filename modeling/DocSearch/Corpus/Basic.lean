/-
A tokenized corpus: for each document its tokens in order, from a file `tokens<id>.txt` with one
token a line, and the lemmas with the tokens they come from, from a file `lemmas<id>.txt` with a
line `lemma token token ...` each. Either file may be missing.
-/
import Std.Data.ExtTreeMap
import DocSearch.DocId
import DocSearch.FileTree.Listing
import DocSearch.Snapshot.Error
import DocSearch.Text.Blank
import DocSearch.Text.Lines
import DocSearch.Text.Utf8

namespace DocSearch

open Text

/-- What the corpus holds of a document. -/
structure CorpusDoc where
  tokens : Option (List String)
  lemmas : Option (List (String × List String))
  deriving DecidableEq, Repr

/-- The documents of a corpus. -/
abbrev Corpus := Std.ExtTreeMap DocId CorpusDoc

namespace Corpus

/-- The two kinds of corpus files. -/
inductive FileKind where
  | tokens
  | lemmas
  deriving DecidableEq, Repr

/-- How the names of the files of a kind begin. -/
def FileKind.label : FileKind → String
  | .tokens => "tokens"
  | .lemmas => "lemmas"

/-- The document of a file name `<label><digits>.txt`. -/
def numberedName? (label : String) (name : String) : Option DocId :=
  let start := label.toList
  let cs := name.toList
  if start.isPrefixOf cs then
    let rest := cs.drop start.length
    let digits := rest.takeWhile fun c => '0' ≤ c && c ≤ '9'
    if rest.drop digits.length = ".txt".toList then DocId.read? digits else none
  else none

/-- The kind and document of a corpus file, by its name. -/
def fileRole? (name : String) : Option (FileKind × DocId) :=
  match numberedName? FileKind.tokens.label name with
  | some doc => some (.tokens, doc)
  | none => (numberedName? FileKind.lemmas.label name).map (.lemmas, ·)

/-- The tokens of a text: its lines without the blanks around them, empty ones left out. -/
def readTokens (s : String) : List String :=
  (((stringLines s).map trim).filter (!·.isEmpty)).map .ofList

/-- Reads a line: a lemma and the tokens it comes from. -/
def readLemma? (line : List Char) : Option (String × List String) :=
  match (words line).map String.ofList with
  | l :: tokens => some (l, tokens)
  | [] => none

/-- The lemmas of a text; blank lines are left out. -/
def readLemmas (s : String) : List (String × List String) := (stringLines s).filterMap readLemma?

/-- The document as it stands, or without files if there is none yet. -/
def docOf (corpus : Corpus) (doc : DocId) : CorpusDoc := (corpus[doc]?).getD ⟨none, none⟩

/-- Takes the text of a file in place of what the document had of that kind. -/
def addText (c : Corpus) (kind : FileKind) (doc : DocId) (s : String) : Corpus :=
  match kind with
  | .tokens => c.insert doc { c.docOf doc with tokens := some (readTokens s) }
  | .lemmas => c.insert doc { c.docOf doc with lemmas := some (readLemmas s) }

/-- Takes a listed file; one that is no corpus file changes nothing. -/
def addFile (c : Corpus) (f : ListedFile) : Except Failure Corpus :=
  match fileRole? f.name with
  | none => .ok c
  | some (kind, doc) =>
    match decode? f.bytes with
    | some s => .ok (c.addText kind doc s)
    | none => .error (.context ("reading " ++ f.path.text) (.io .notUtf8))

/-- The corpus of the listed files, taken in order. -/
def ofFiles (fs : List ListedFile) : Except Failure Corpus := fs.foldlM addFile ∅

/-- Reads the corpus of a directory, or of a single file. -/
def read (t : FileTree) (dir : Path) : Except Failure Corpus := ofFiles (t.filesAt dir)

end Corpus

end DocSearch
