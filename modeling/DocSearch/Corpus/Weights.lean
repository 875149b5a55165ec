/-
The weights of a corpus: term frequency, relative to the length of the document, times inverse
document frequency. A lemma is as frequent as the tokens it comes from are together.
-/
import Std.Data.ExtTreeSet
import DocSearch.Corpus.Basic
import DocSearch.TermSpace

namespace DocSearch.Corpus

/-- The weights of a document; there are none of lemmas without a lemma file. -/
structure DocWeights (α : Type) where
  doc : DocId
  tokens : List (WeightRecord α)
  lemmas : Option (List (WeightRecord α))

/-- How often each term occurs. -/
def frequencies (ts : List String) : Std.ExtTreeMap String Nat :=
  ts.foldl (fun m t => m.alter t fun n => some (n.getD 0 + 1)) ∅

/-- In how many of the given lists each term occurs. -/
def documentFrequencies (ds : List (List String)) : Std.ExtTreeMap String Nat :=
  frequencies (ds.flatMap fun ts => (Std.ExtTreeSet.ofList ts).toList)

/-- The number of documents with a tokens file. -/
def tokenizedDocs (c : Corpus) : Nat := (c.values.filter fun d => d.tokens.isSome).length

/-- In how many documents each token occurs. -/
def tokenDocFrequencies (c : Corpus) : Std.ExtTreeMap String Nat :=
  documentFrequencies (c.values.map fun d => d.tokens.getD [])

/-- In how many documents each lemma occurs, as written. -/
def lemmaDocFrequencies (c : Corpus) : Std.ExtTreeMap String Nat :=
  documentFrequencies (c.values.map fun d => (d.lemmas.getD []).map (·.1))

/-- How many tokens of a document come under a lemma line that lists `sources`. -/
def lemmaCount (freq : Std.ExtTreeMap String Nat) (sources : List String) : Nat :=
  sources.foldl (fun n t => n + (freq[t]?).getD 0) 0

variable {α : Type} [RealScalar α]

/-- The inverse document frequency `ln (total / df)`; a term without frequency counts as one. -/
def idf (total : Nat) (df : Option Nat) : α :=
  RealScalar.ln (Scalar.ofNat total / Scalar.ofNat (df.getD 1))

/-- The weights of the tokens of a document, ascending. -/
def tokenRecords (total : Nat) (df : Std.ExtTreeMap String Nat) (tokens : List String) :
    List (WeightRecord α) :=
  (frequencies tokens).toList.map fun (token, count) =>
    let idf := idf total df[token]?
    ⟨token, idf, Scalar.ofNat count / Scalar.ofNat tokens.length * idf⟩

/-- The term frequencies of the lemmas of a document; a later line for a lemma replaces an earlier
one. -/
def lemmaFrequencies (tokens : List String) (lines : List (String × List String)) :
    Std.ExtTreeMap String α :=
  let freq := frequencies tokens
  lines.foldl (fun m l =>
    m.insert l.1 (Scalar.ofNat (lemmaCount freq l.2) / Scalar.ofNat tokens.length)) ∅

/-- The weights of the lemmas of a document, ascending. -/
def lemmaRecords (total : Nat) (df : Std.ExtTreeMap String Nat) (tokens : List String)
    (lines : List (String × List String)) : List (WeightRecord α) :=
  (lemmaFrequencies tokens lines).toList.map fun (l, tf) =>
    let idf := idf total df[l]?
    ⟨l, idf, tf * idf⟩

/-- The weights of a document, unless it has no tokens. -/
def docWeights? (total : Nat) (tokenDf lemmaDf : Std.ExtTreeMap String Nat) (doc : DocId)
    (d : CorpusDoc) : Option (DocWeights α) :=
  match d.tokens with
  | none | some [] => none
  | some tokens =>
    some ⟨doc, tokenRecords total tokenDf tokens, d.lemmas.map (lemmaRecords total lemmaDf tokens)⟩

/-- The weights of all documents with at least one token, by ascending identifier. -/
def weights (c : Corpus) : List (DocWeights α) :=
  let total := c.tokenizedDocs
  let tokenDf := c.tokenDocFrequencies
  let lemmaDf := c.lemmaDocFrequencies
  c.toList.filterMap fun (doc, d) => docWeights? total tokenDf lemmaDf doc d

end DocSearch.Corpus
