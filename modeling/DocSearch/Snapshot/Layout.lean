/-
Where the parts of a snapshot are kept below its directory.
-/
import DocSearch.DocId
import DocSearch.FileTree.Path
import DocSearch.Model

namespace DocSearch

/-- A snapshot, given by its directory. -/
structure Snapshot where
  root : Path

/-- How the names of a space's weight files begin. -/
def Space.weightsName : Space → String
  | .tokens => "tfidf_tokens"
  | .lemmas => "tfidf_lemmas"

namespace Snapshot

/-- The inverted index. -/
def invertedIndex (s : Snapshot) : Path := s.root.join "inverted_index.txt"

/-- The list of documents. -/
def documents (s : Snapshot) : Path := s.root.join "index.txt"

/-- The link graph. -/
def links (s : Snapshot) : Path := s.root.join "links.txt"

/-- The lemma table. -/
def lemmaMap (s : Snapshot) : Path := s.root.join "lemma_map.txt"

/-- The manifest. -/
def manifest (s : Snapshot) : Path := s.root.join "meta.json"

/-- The directory of the weight files. -/
def weightsDir (s : Snapshot) : Path := s.root.join "weights"

/-- The name of the weight file of a document. -/
def weightsFileName (space : Space) (doc : DocId) : String :=
  space.weightsName ++ doc.text ++ ".txt"

/-- The weight file of a document. -/
def weightsFile (s : Snapshot) (space : Space) (doc : DocId) : Path :=
  s.weightsDir.join (weightsFileName space doc)

/-- The document that a file in the directory of the weights is for. -/
def weightsDoc? (space : Space) (name : String) : Option DocId :=
  let start := space.weightsName.toList
  let ending := ".txt".toList
  let cs := name.toList
  if start.isPrefixOf cs then
    let rest := cs.drop start.length
    if ending.isSuffixOf rest then DocId.read? (rest.take (rest.length - ending.length)) else none
  else none

end Snapshot

end DocSearch
