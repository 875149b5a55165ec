/-
The inverted index and the lemma table of a corpus. Both are in lowercase.
-/
import DocSearch.Corpus.Basic
import DocSearch.LemmaTable
import DocSearch.Postings.Basic

namespace DocSearch.Corpus

open Text

/-- The lemma lines of a document. -/
def lemmaLines (d : CorpusDoc) : List (String × List String) := d.lemmas.getD []

/-- Every lemma line of the corpus, with its document. -/
def allLemmaLines (c : Corpus) : List (DocId × String × List String) :=
  c.toList.flatMap fun d => (lemmaLines d.2).map (d.1, ·)

/-- The documents of every lowercased lemma. -/
def lemmaDocs (c : Corpus) : Std.ExtTreeMap String DocSet :=
  c.allLemmaLines.foldl
    (fun m l => m.alter (lowerString l.2.1) fun s => some ((s.getD ∅).insert l.1)) ∅

/-- The inverted index: lowercased lemmas to the documents whose lemma file lists them. -/
def invertedIndex (c : Corpus) : Postings :=
  c.lemmaDocs.toList.foldl (fun p r => p.insert r.1 r.2) Postings.empty

/-- The lowercased lemmas of every lowercased token. -/
def tokenLemmas (c : Corpus) : Std.ExtTreeMap String (Std.ExtTreeSet String) :=
  (c.allLemmaLines.flatMap fun l => l.2.2.map fun t => (lowerString t, lowerString l.2.1)).foldl
    (fun m e => m.alter e.1 fun s => some ((s.getD ∅).insert e.2)) ∅

/-- The lemma table: each token with the lemmas it is listed under, ascending. -/
def lemmaTable (c : Corpus) : LemmaTable := c.tokenLemmas.map fun _ ls => ls.toList

end DocSearch.Corpus
