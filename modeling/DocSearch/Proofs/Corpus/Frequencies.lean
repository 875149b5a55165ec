/-
Document frequencies. A term is listed by at least one document as soon as there is a record of it,
and the record has the logarithm of the number of documents with a tokens file over the number of
those that list the term. A document with a tokens file may have no token and so no weights.
-/
import DocSearch.Proofs.Corpus.Weights

namespace DocSearch.Corpus

/-! ## Counting documents -/

/-- The terms that a document lists in a space. -/
def termsIn (d : CorpusDoc) : Space → List String
  | .tokens => d.tokens.getD []
  | .lemmas => (d.lemmas.getD []).map (·.1)

/-- The number of documents that list a term. -/
def docFrequency (corpus : Corpus) (space : Space) (term : String) : Nat :=
  corpus.values.countP fun d => term ∈ termsIn d space

/-- The number of documents with a token. -/
def weightedDocs (corpus : Corpus) : Nat := corpus.values.countP fun d => d.tokens.getD [] ≠ []

theorem count_distinct (ts : List String) (term : String) :
    (Std.ExtTreeSet.ofList ts).toList.count term = if term ∈ ts then 1 else 0 := by
  rw [count_toList]
  simp only [Std.ExtTreeSet.mem_ofList, List.contains_iff_mem]

theorem count_flatMap_distinct (term : String) : ∀ ds : List (List String),
    (ds.flatMap fun ts => (Std.ExtTreeSet.ofList ts).toList).count term = ds.countP (term ∈ ·)
  | [] => rfl
  | ts :: ds => by
    rw [List.flatMap_cons, List.count_append, count_distinct, count_flatMap_distinct term ds,
      List.countP_cons, Nat.add_comm]
    simp only [decide_eq_true_eq]

theorem getElem?_documentFrequencies (ds : List (List String)) (term : String) :
    (documentFrequencies ds)[term]? =
      if 0 < ds.countP (term ∈ ·) then some (ds.countP (term ∈ ·)) else none := by
  rw [documentFrequencies, frequencies, getElem?_foldl_count_empty, count_flatMap_distinct]
  simp only [← List.count_pos_iff, count_flatMap_distinct]

/-- The table of a space that the frequencies of its terms are looked up in. -/
def docFrequencies (corpus : Corpus) (space : Space) : Std.ExtTreeMap String Nat :=
  documentFrequencies (corpus.values.map fun d => termsIn d space)

theorem getElem?_docFrequencies (corpus : Corpus) (space : Space) (term : String) :
    (corpus.docFrequencies space)[term]? =
      if 0 < corpus.docFrequency space term then some (corpus.docFrequency space term) else none := by
  rw [docFrequencies, getElem?_documentFrequencies, List.countP_map]
  rfl

/-! ## The frequencies of records -/

variable {α : Type} [RealScalar α] {corpus : Corpus} {space : Space} {d : CorpusDoc} {doc : DocId}
  {term : String}

theorem mem_values (h : corpus[doc]? = some d) : d ∈ corpus.values := by
  rw [values_eq_map_toList]
  exact List.mem_map.2 ⟨(doc, d), Std.ExtTreeMap.mem_toList_iff_getElem?_eq_some.2 h, rfl⟩

theorem docFrequency_pos (h : corpus[doc]? = some d) (hterm : term ∈ termsIn d space) :
    0 < corpus.docFrequency space term :=
  List.countP_pos_iff.2 ⟨d, mem_values h, decide_eq_true hterm⟩

/-- The records of a space are for terms that the document lists, with the frequency from the table. -/
theorem of_mem_recordsIn {w : DocWeights α} (hw : w ∈ (corpus.weights : List (DocWeights α)))
    {rs : List (WeightRecord α)} (hrs : recordsIn w space = some rs) {r : WeightRecord α} (hr : r ∈ rs) :
    ∃ d, corpus[w.doc]? = some d ∧ r.term ∈ termsIn d space ∧
      r.idf = idf corpus.tokenizedDocs (corpus.docFrequencies space)[r.term]? := by
  obtain ⟨d, ts, hd, hts, -, hw⟩ := mem_weights.1 hw
  refine ⟨d, hd, ?_⟩
  rw [hw] at hrs
  cases space with
  | tokens =>
    cases hrs
    obtain ⟨⟨token, count⟩, hmem, rfl⟩ := List.mem_map.1 hr
    have hcount := Std.ExtTreeMap.mem_toList_iff_getElem?_eq_some.1 hmem
    refine ⟨?_, rfl⟩
    rw [termsIn, hts]
    exact mem_of_getElem?_frequencies hcount
  | lemmas =>
    -- records are made from the last line of each lemma, and any line of it will do
    obtain ⟨lines, hlines, rfl⟩ := Option.map_eq_some_iff.1 hrs
    obtain ⟨⟨l, tf⟩, hmem, rfl⟩ := List.mem_map.1 hr
    have htf := Std.ExtTreeMap.mem_toList_iff_getElem?_eq_some.1 hmem
    refine ⟨?_, rfl⟩
    rw [termsIn, hlines]
    rcases mem_of_getElem?_foldl_insert (γ := String × List String) Prod.fst _ htf with
      ⟨line, hline, rfl, -⟩ | hempty
    · exact List.mem_map_of_mem hline
    · rw [Std.ExtTreeMap.getElem?_empty] at hempty; cases hempty

/-- Every record has the logarithm of the documents with a tokens file over those with its term. -/
theorem idf_of_mem_recordsIn {w : DocWeights α} (hw : w ∈ (corpus.weights : List (DocWeights α)))
    {rs : List (WeightRecord α)} (hrs : recordsIn w space = some rs) {r : WeightRecord α} (hr : r ∈ rs) :
    0 < corpus.docFrequency space r.term ∧ r.idf = RealScalar.ln
      (Scalar.ofNat corpus.tokenizedDocs / Scalar.ofNat (corpus.docFrequency space r.term)) := by
  obtain ⟨d, hd, hterm, hidf⟩ := of_mem_recordsIn hw hrs hr
  have hpos := docFrequency_pos hd hterm
  refine ⟨hpos, ?_⟩
  rw [hidf, getElem?_docFrequencies, if_pos hpos]
  rfl

/-! ## Documents with a tokens file and documents with a token -/

theorem isSome_docWeights? {total : Nat} {tokenDf lemmaDf : Std.ExtTreeMap String Nat} :
    (docWeights? total tokenDf lemmaDf doc d : Option (DocWeights α)).isSome =
      decide (d.tokens.getD [] ≠ []) := by
  unfold docWeights?
  split <;> simp_all

theorem length_weights (corpus : Corpus) :
    (corpus.weights : List (DocWeights α)).length = corpus.weightedDocs := by
  unfold weights weightedDocs
  rw [List.length_filterMap_eq_countP, values_eq_map_toList, List.countP_map]
  exact List.countP_congr fun e _ => by rw [isSome_docWeights?]; rfl

/-- A token is listed by documents with a token only. -/
theorem docFrequency_tokens_le (corpus : Corpus) (term : String) :
    corpus.docFrequency .tokens term ≤ corpus.weightedDocs :=
  List.countP_mono_left fun _ _ hd => decide_eq_true (List.ne_nil_of_mem (of_decide_eq_true hd))

theorem weightedDocs_le_tokenizedDocs (corpus : Corpus) : corpus.weightedDocs ≤ corpus.tokenizedDocs := by
  unfold weightedDocs tokenizedDocs
  rw [← List.countP_eq_length_filter]
  refine List.countP_mono_left fun d _ hd => ?_
  cases hts : d.tokens with
  | none => simp [hts] at hd
  | some ts => rfl

theorem tokenizedDocs_pos {w : DocWeights α} (hw : w ∈ (corpus.weights : List (DocWeights α))) :
    0 < corpus.tokenizedDocs := by
  refine Nat.lt_of_lt_of_le ?_ (weightedDocs_le_tokenizedDocs corpus)
  rw [← length_weights (α := α)]
  exact List.length_pos_of_mem hw

/-- Every document with a tokens file counts as long as none of the files is blank. -/
theorem tokenizedDocs_eq_weightedDocs (h : ∀ d ∈ corpus.values, d.tokens ≠ some []) :
    corpus.tokenizedDocs = corpus.weightedDocs := by
  unfold weightedDocs tokenizedDocs
  rw [← List.countP_eq_length_filter]
  refine List.countP_congr fun d hd => ?_
  have hne := h d hd
  cases hts : d.tokens with
  | none => simp
  | some ts => simpa [hts] using hne

end DocSearch.Corpus
