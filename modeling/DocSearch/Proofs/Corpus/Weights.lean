/-
The weights of a corpus. There is one set of weights for each document with a token, and its token
records are for tokens of that document.
-/
import DocSearch.Corpus.Weights
import DocSearch.Model
import DocSearch.Proofs.Corpus.Reading
import DocSearch.Proofs.Inserts

namespace DocSearch.Corpus

/-- The records of a document in one space. -/
def recordsIn {α : Type} (w : DocWeights α) : Space → Option (List (WeightRecord α))
  | .tokens => some w.tokens
  | .lemmas => w.lemmas

variable {α : Type} [RealScalar α]

/-! ## Frequencies -/

theorem mem_of_getElem?_frequencies {ts : List String} {token : String} {n : Nat}
    (h : (frequencies ts)[token]? = some n) : token ∈ ts := by
  by_cases htoken : token ∈ ts
  · exact htoken
  · rw [frequencies, getElem?_foldl_count_empty, if_neg htoken] at h
    cases h

/-! ## Records of a table -/

theorem pairwise_keys {β : Type} (m : Std.ExtTreeMap String β) : m.keys.Pairwise (· < ·) := by
  refine Std.ExtTreeMap.ordered_keys.imp fun {a b} hab => ?_
  exact compareOfLessAndEq_eq_lt.1 hab

/-- The records of a table are known by what their terms have in it. -/
theorem mem_map_record {β : Type} {m : Std.ExtTreeMap String β} {f : β → α} {g : String → α}
    {r : WeightRecord α} :
    r ∈ m.toList.map (fun e => (⟨e.1, g e.1, f e.2 * g e.1⟩ : WeightRecord α)) ↔
      r.idf = g r.term ∧ ∃ b, m[r.term]? = some b ∧ r.tfidf = f b * r.idf := by
  simp only [List.mem_map, Prod.exists, Std.ExtTreeMap.mem_toList_iff_getElem?_eq_some]
  constructor
  · rintro ⟨term, b, hb, rfl⟩
    exact ⟨rfl, b, hb, rfl⟩
  · rintro ⟨hidf, b, hb, htfidf⟩
    refine ⟨r.term, b, hb, ?_⟩
    cases r
    simp only at hidf htfidf
    rw [WeightRecord.mk.injEq]
    exact ⟨rfl, hidf.symm, by rw [htfidf, hidf]⟩

/-! ## Documents with weights -/

/-- What the weights of a document are put together from. -/
theorem docWeights?_eq_some_iff {total : Nat} {tokenDf lemmaDf : Std.ExtTreeMap String Nat}
    {doc : DocId} {d : CorpusDoc} {w : DocWeights α} :
    docWeights? total tokenDf lemmaDf doc d = some w ↔ ∃ ts, d.tokens = some ts ∧ ts ≠ [] ∧
      w = ⟨doc, tokenRecords total tokenDf ts, d.lemmas.map (lemmaRecords total lemmaDf ts)⟩ := by
  unfold docWeights?
  split
  · rename_i hts; simp [hts]
  · rename_i hts; simp [hts]
  · rename_i ts hne hts
    have hne : ts ≠ [] := hne
    rw [Option.some.injEq, eq_comm]
    simp only [hts, Option.some.injEq, exists_eq_left']
    exact (and_iff_right hne).symm

variable {corpus : Corpus} {w w' : DocWeights α}

theorem mem_weights : w ∈ (corpus.weights : List (DocWeights α)) ↔
    ∃ d ts, corpus[w.doc]? = some d ∧ d.tokens = some ts ∧ ts ≠ [] ∧
      w = ⟨w.doc, tokenRecords corpus.tokenizedDocs corpus.tokenDocFrequencies ts,
        d.lemmas.map (lemmaRecords corpus.tokenizedDocs corpus.lemmaDocFrequencies ts)⟩ := by
  unfold weights
  simp only [List.mem_filterMap, Prod.exists, Std.ExtTreeMap.mem_toList_iff_getElem?_eq_some,
    docWeights?_eq_some_iff]
  constructor
  · rintro ⟨doc, d, hd, ts, hts, hne, rfl⟩; exact ⟨d, ts, hd, hts, hne, rfl⟩
  · rintro ⟨d, ts, hd, hts, hne, hw⟩; exact ⟨w.doc, d, hd, ts, hts, hne, hw⟩

/-- A document has one set of weights at most. -/
theorem eq_of_mem_weights (h : w ∈ (corpus.weights : List (DocWeights α)))
    (h' : w' ∈ (corpus.weights : List (DocWeights α))) (hdoc : w.doc = w'.doc) : w = w' := by
  obtain ⟨d, ts, hd, hts, -, hw⟩ := mem_weights.1 h
  obtain ⟨d', ts', hd', hts', -, hw'⟩ := mem_weights.1 h'
  rw [hdoc, hd'] at hd
  cases hd
  rw [hts'] at hts
  cases hts
  rw [hw, hw', hdoc]

theorem nodup_docs_weights : ((corpus.weights : List (DocWeights α)).map (·.doc)).Nodup := by
  unfold weights List.Nodup
  rw [List.pairwise_map, List.pairwise_filterMap]
  refine Std.ExtTreeMap.distinct_keys_toList.imp ?_
  rintro ⟨doc, d⟩ ⟨doc', d'⟩ hne w hw w' hw' hdoc
  obtain ⟨ts, -, -, rfl⟩ := docWeights?_eq_some_iff.1 hw
  obtain ⟨ts', -, -, rfl⟩ := docWeights?_eq_some_iff.1 hw'
  exact hne (Std.compare_eq_iff_eq.2 hdoc)

/-- Whether a document has a token. -/
def Tokenized (corpus : Corpus) (doc : DocId) : Prop := (corpus.docOf doc).tokens.getD [] ≠ []

theorem tokenized_iff {doc : DocId} :
    corpus.Tokenized doc ↔ ∃ d ts, corpus[doc]? = some d ∧ d.tokens = some ts ∧ ts ≠ [] := by
  unfold Tokenized docOf
  cases corpus[doc]? with
  | none => simp
  | some d =>
    cases hts : d.tokens with
    | none => simp [hts]
    | some ts => simp [hts]

theorem exists_mem_weights_iff {doc : DocId} :
    (∃ w ∈ (corpus.weights : List (DocWeights α)), w.doc = doc) ↔ corpus.Tokenized doc := by
  rw [tokenized_iff]
  constructor
  · rintro ⟨w, hw, rfl⟩
    obtain ⟨d, ts, hd, hts, hne, -⟩ := mem_weights.1 hw
    exact ⟨d, ts, hd, hts, hne⟩
  · rintro ⟨d, ts, hd, hts, hne⟩
    exact ⟨⟨doc, _, _⟩, mem_weights.2 ⟨d, ts, hd, hts, hne, rfl⟩, rfl⟩

/-- There are weights of the lemmas exactly if there is a file of them. -/
theorem isSome_lemmas_of_mem_weights (h : w ∈ (corpus.weights : List (DocWeights α))) :
    w.lemmas.isSome = (corpus.docOf w.doc).lemmas.isSome := by
  obtain ⟨d, ts, hd, -, -, hw⟩ := mem_weights.1 h
  unfold docOf
  rw [hd, Option.getD_some, hw, Option.isSome_map]

theorem weights_ne_nil_of_tokenized {doc : DocId} (h : corpus.Tokenized doc) :
    (corpus.weights : List (DocWeights α)) ≠ [] := by
  obtain ⟨w, hw, -⟩ := (exists_mem_weights_iff (α := α)).2 h
  exact List.ne_nil_of_mem hw

/-- There are weights as soon as a document has a token. -/
theorem weights_ne_nil {doc : DocId} {token : String}
    (h : token ∈ (corpus.docOf doc).tokens.getD []) : (corpus.weights : List (DocWeights α)) ≠ [] :=
  weights_ne_nil_of_tokenized (List.ne_nil_of_mem h : corpus.Tokenized doc)

/-- Each document with a token has a record for one. -/
theorem exists_mem_tokens_of_tokenized {doc : DocId} (h : corpus.Tokenized doc) :
    ∃ w ∈ (corpus.weights : List (DocWeights α)), ∃ r, r ∈ w.tokens := by
  obtain ⟨w, hw, -⟩ := (exists_mem_weights_iff (α := α)).2 h
  obtain ⟨d, ts, -, -, hne, heq⟩ := mem_weights.1 hw
  obtain ⟨token, htoken⟩ := List.exists_mem_of_ne_nil ts hne
  have hcount : (frequencies ts)[token]? = some (ts.count token) := by
    rw [frequencies, getElem?_foldl_count_empty, if_pos htoken]
  refine ⟨w, hw, ?_⟩
  rw [heq]
  exact ⟨_, List.mem_map_of_mem (Std.ExtTreeMap.mem_toList_iff_getElem?_eq_some.2 hcount)⟩

/-- A token record is for a token of its document. -/
theorem mem_tokens_of_mem_weights (h : w ∈ (corpus.weights : List (DocWeights α)))
    {r : WeightRecord α} (hr : r ∈ w.tokens) :
    ∃ d ts, corpus[w.doc]? = some d ∧ d.tokens = some ts ∧ r.term ∈ ts := by
  obtain ⟨d, ts, hd, hts, -, hw⟩ := mem_weights.1 h
  rw [hw] at hr
  obtain ⟨⟨token, count⟩, hmem, rfl⟩ := List.mem_map.1 hr
  have hcount := Std.ExtTreeMap.mem_toList_iff_getElem?_eq_some.1 hmem
  exact ⟨d, ts, hd, hts, mem_of_getElem?_frequencies hcount⟩

theorem term_of_mem_weights (hc : OfTexts corpus)
    (h : w ∈ (corpus.weights : List (DocWeights α))) {r : WeightRecord α} (hr : r ∈ w.tokens) :
    r.term ≠ "" ∧ '\n' ∉ r.term.toList := by
  obtain ⟨d, ts, hd, hts, hmem⟩ := mem_tokens_of_mem_weights h hr
  obtain ⟨s, rfl⟩ := (hc w.doc d hd).tokens ts hts
  exact mem_readTokens hmem

end DocSearch.Corpus
