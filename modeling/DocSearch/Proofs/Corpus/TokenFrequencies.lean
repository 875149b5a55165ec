/-
Term frequencies of tokens. The tokens of a document are counted twice: each once, for the number of
documents that list it, and every occurrence, for its part of the document. A token with a record was
met by both, so no document frequency is missing, the occurrences of all records are the tokens of the
document, and the documents that list a token are among those with a tokens file. So the quotient that
the logarithm is taken of is at least one, rounded or not.
-/
import DocSearch.Proofs.Binary64.Roots
import DocSearch.Proofs.Corpus.LemmaSigns

namespace DocSearch

namespace Binary64

/-- The arithmetic of the library with another logarithm. -/
@[reducible]
def withLn (ln : Binary64 → Binary64) : RealScalar Binary64 :=
  { (inferInstance : RealScalar Binary64) with ln := ln }

example : withLn ln = (inferInstance : RealScalar Binary64) := rfl

/-- Whether a function is a number without a minus sign at every finite number from one on, as the
natural logarithm is however it is rounded. -/
def NonNegativeFromOne (f : Binary64 → Binary64) : Prop :=
  ∀ x : Binary64, x.isFinite = true → x.isNegative = false → 1 ≤ x.size →
    (f x).isNaN = false ∧ (f x).isNegative = false

end Binary64

namespace Corpus

variable {α : Type} [RealScalar α] {corpus : Corpus} {tokens : List String} {t : String}

/-! ## The records of a document -/

section Records

variable {total : Nat} {df : Std.ExtTreeMap String Nat}

theorem mem_tokenRecords {r : WeightRecord α} : r ∈ tokenRecords total df tokens ↔
    r.term ∈ tokens ∧ r.idf = idf total df[r.term]? ∧
      r.tfidf = Scalar.ofNat (tokens.count r.term) / Scalar.ofNat tokens.length * r.idf := by
  refine (mem_map_record (m := frequencies tokens)
    (f := fun n => Scalar.ofNat n / Scalar.ofNat tokens.length) (g := fun t => idf total df[t]?)).trans ?_
  unfold frequencies
  simp only [getElem?_foldl_count_empty, Option.ite_none_right_eq_some, Option.some.injEq]
  constructor
  · rintro ⟨hidf, count, ⟨htoken, rfl⟩, htfidf⟩
    exact ⟨htoken, hidf, htfidf⟩
  · rintro ⟨htoken, hidf, htfidf⟩
    exact ⟨hidf, _, ⟨htoken, rfl⟩, htfidf⟩

theorem terms_tokenRecords : (tokenRecords total df tokens : List (WeightRecord α)).map (·.term) =
    (frequencies tokens).keys := by
  rw [tokenRecords, List.map_map, ← Std.ExtTreeMap.map_fst_toList_eq_keys]
  rfl

theorem pairwise_tokenRecords : ((tokenRecords total df tokens : List (WeightRecord α)).map
    (·.term)).Pairwise (· < ·) := by
  rw [terms_tokenRecords]
  exact pairwise_keys _

/-- There is a record for every token of the document. -/
theorem mem_terms_tokenRecords :
    t ∈ (tokenRecords total df tokens : List (WeightRecord α)).map (·.term) ↔ t ∈ tokens := by
  rw [terms_tokenRecords, Std.ExtTreeMap.mem_keys, Std.ExtTreeMap.mem_iff_isSome_getElem?,
    frequencies, getElem?_foldl_count_empty]
  split <;> simp [*]

/-- The occurrences that the records count are all tokens of the document. -/
theorem sum_count_tokenRecords : ((tokenRecords total df tokens : List (WeightRecord α)).map
    fun r => tokens.count r.term).sum = tokens.length := by
  have hmap : ((tokenRecords total df tokens : List (WeightRecord α)).map
      fun r => tokens.count r.term) =
      ((tokenRecords total df tokens : List (WeightRecord α)).map (·.term)).map (tokens.count ·) := by
    rw [List.map_map]
    rfl
  rw [hmap, terms_tokenRecords, frequencies, ← values_foldl_count, sum_values_foldl_count]

end Records

/-! ## The documents of a corpus -/

theorem pairwise_docs_weights :
    ((corpus.weights : List (DocWeights α)).map (·.doc)).Pairwise (· < ·) := by
  unfold weights
  rw [List.pairwise_map, List.pairwise_filterMap]
  refine Std.ExtTreeMap.ordered_keys_toList.imp ?_
  rintro ⟨doc, d⟩ ⟨doc', d'⟩ hlt w hw w' hw'
  obtain ⟨ts, -, -, rfl⟩ := docWeights?_eq_some_iff.1 hw
  obtain ⟨ts', -, -, rfl⟩ := docWeights?_eq_some_iff.1 hw'
  exact Std.compare_eq_lt.1 hlt

/-- A token with a record is in the table of document frequencies, with the number of documents that
list it, which are documents with a tokens file. -/
theorem docFrequency_of_mem_tokens {w : DocWeights α} (hw : w ∈ (corpus.weights : List (DocWeights α)))
    {r : WeightRecord α} (hr : r ∈ w.tokens) :
    corpus.tokenDocFrequencies[r.term]? = some (corpus.docFrequency .tokens r.term) ∧
      1 ≤ corpus.docFrequency .tokens r.term ∧
      corpus.docFrequency .tokens r.term ≤ corpus.tokenizedDocs := by
  have htokens : recordsIn w .tokens = some w.tokens := rfl
  have hpos := (idf_of_mem_recordsIn hw htokens hr).1
  refine ⟨?_, hpos, (docFrequency_tokens_le corpus r.term).trans (weightedDocs_le_tokenizedDocs corpus)⟩
  exact (getElem?_docFrequencies corpus .tokens r.term).trans (if_pos hpos)

/-- The records of a document with weights are those of its tokens. -/
theorem exists_tokens_of_mem_weights {w : DocWeights α}
    (hw : w ∈ (corpus.weights : List (DocWeights α))) : ∃ d tokens, corpus[w.doc]? = some d ∧
      d.tokens = some tokens ∧ 1 ≤ tokens.length ∧
      w.tokens = tokenRecords corpus.tokenizedDocs corpus.tokenDocFrequencies tokens ∧
      ∀ r ∈ w.tokens,
        r.idf = RealScalar.ln (Scalar.ofNat corpus.tokenizedDocs /
          Scalar.ofNat (corpus.docFrequency .tokens r.term)) ∧
        r.tfidf = Scalar.ofNat (tokens.count r.term) / Scalar.ofNat tokens.length * r.idf := by
  obtain ⟨d, tokens, hd, htokens, hne, heq⟩ := mem_weights.1 hw
  have hrecords : w.tokens = tokenRecords corpus.tokenizedDocs corpus.tokenDocFrequencies tokens := by
    rw [heq]
  have hspace : recordsIn w .tokens = some w.tokens := rfl
  refine ⟨d, tokens, hd, htokens, List.length_pos_iff.2 hne, hrecords, fun r hr => ?_⟩
  obtain ⟨-, hidf⟩ := idf_of_mem_recordsIn hw hspace hr
  obtain ⟨-, -, htfidf⟩ := mem_tokenRecords.1 (hrecords ▸ hr)
  exact ⟨hidf, htfidf⟩

/-- In exact numbers the quotient for a token is at least one, so no frequency and no weight is
negative. -/
theorem nonneg_of_mem_tokens {w : DocWeights ℝ} (hw : w ∈ (corpus.weights : List (DocWeights ℝ)))
    {r : WeightRecord ℝ} (hr : r ∈ w.tokens) :
    r.idf = Real.log (corpus.tokenizedDocs / corpus.docFrequency .tokens r.term) ∧
      0 ≤ r.idf ∧ 0 ≤ r.tfidf := by
  obtain ⟨-, hpos, hle⟩ := docFrequency_of_mem_tokens hw hr
  obtain ⟨d, tokens, -, -, hlength, -, hrecord⟩ := exists_tokens_of_mem_weights hw
  obtain ⟨hidf, htfidf⟩ := hrecord r hr
  have hlog : r.idf = Real.log (corpus.tokenizedDocs / corpus.docFrequency .tokens r.term) := hidf
  have hnonneg : 0 ≤ r.idf := hlog ▸ (log_div_nonneg_iff (tokenizedDocs_pos hw) hpos).2 hle
  refine ⟨hlog, hnonneg, ?_⟩
  rw [htfidf]
  exact (frequency_mul_nonneg_iff hlength).2 (.inl hnonneg)

/-- There are no more documents than identifiers. -/
theorem tokenizedDocs_le (corpus : Corpus) : corpus.tokenizedDocs ≤ 0x100000000 := by
  have hvalues : corpus.values.length = corpus.keys.length := by
    rw [values_eq_map_toList, List.length_map, Std.ExtTreeMap.length_toList,
      Std.ExtTreeMap.length_keys]
  have hnodup : (corpus.keys.map UInt32.toNat).Nodup :=
    Std.ExtTreeMap.nodup_keys.map fun _ _ => UInt32.toNat_inj.1
  have hsub : (corpus.keys.map UInt32.toNat).Subperm (List.range 0x100000000) :=
    hnodup.subperm fun n hn => by
      obtain ⟨doc, -, rfl⟩ := List.mem_map.1 hn
      exact List.mem_range.2 doc.toNat_lt
  have hlength := hsub.length_le
  rw [List.length_map, List.length_range] at hlength
  rw [← hvalues] at hlength
  exact (List.length_filter_le _ _).trans hlength

/-- Rounded, too, the quotient for a token is at least one, so no frequency and no weight has a minus
sign. -/
theorem nonNegative_of_mem_tokens {ln : Binary64 → Binary64} (hln : Binary64.NonNegativeFromOne ln)
    {w : DocWeights Binary64} (hw : w ∈ @weights Binary64 (Binary64.withLn ln) corpus)
    {r : WeightRecord Binary64} (hr : r ∈ w.tokens) :
    1 ≤ (Binary64.ofNat corpus.tokenizedDocs /
        Binary64.ofNat (corpus.docFrequency .tokens r.term)).size ∧
      r.idf.isNaN = false ∧ r.idf.isNegative = false ∧ r.tfidf.NonNegative := by
  let _ := Binary64.withLn ln
  obtain ⟨-, hpos, hle⟩ := docFrequency_of_mem_tokens hw hr
  obtain ⟨hfinite, hsign, hone⟩ := Binary64.atLeast_ofNat_div hpos hle (tokenizedDocs_le corpus)
  obtain ⟨d, tokens, -, -, -, -, hrecord⟩ := exists_tokens_of_mem_weights hw
  obtain ⟨hidf, htfidf⟩ := hrecord r hr
  obtain ⟨hnumber, hclear⟩ : r.idf.isNaN = false ∧ r.idf.isNegative = false :=
    hidf ▸ hln _ hfinite hsign hone
  have hcount : ∀ n, (Binary64.ofNat n).NonNegative := fun n _ => Binary64.isNegative_ofNat n
  refine ⟨hone, hnumber, hclear, ?_⟩
  rw [htfidf]
  exact ((hcount _).div (hcount _)).mul fun _ => hclear

/-! ## The weights of tokens -/

/-- Whatever numbers weights are computed with, they are for the documents with a token, by ascending
identifier. A document has one record for each of its distinct tokens, in ascending order, and their
occurrences add up to its tokens. A record has the logarithm of the number of documents with a tokens
file over the number of those that list its token, and for a weight the part of the tokens that it
is, times that. The number of documents that list the token is in the table, at least one, and at most
the number of documents with a tokens file. So no division is by zero, with binary numbers neither,
and in exact numbers no frequency and no weight is negative. In binary numbers neither is, whatever
logarithm they are computed with that is not negative from one on: the rounded quotient is at least
one. -/
theorem token_weights (corpus : Corpus) :
    (∀ (α : Type) [RealScalar α],
      ((corpus.weights : List (DocWeights α)).map (·.doc)).Pairwise (· < ·) ∧
      (∀ doc, doc ∈ (corpus.weights : List (DocWeights α)).map (·.doc) ↔ corpus.Tokenized doc) ∧
      ∀ w ∈ (corpus.weights : List (DocWeights α)), ∃ d tokens,
        corpus[w.doc]? = some d ∧ d.tokens = some tokens ∧ 1 ≤ tokens.length ∧
        (Binary64.ofNat tokens.length).magnitude ≠ 0 ∧
        (w.tokens.map (·.term)).Pairwise (· < ·) ∧
        (∀ t, t ∈ w.tokens.map (·.term) ↔ t ∈ tokens) ∧
        (w.tokens.map fun r => tokens.count r.term).sum = tokens.length ∧
        ∀ r ∈ w.tokens,
          r.idf = RealScalar.ln (Scalar.ofNat corpus.tokenizedDocs /
            Scalar.ofNat (corpus.docFrequency .tokens r.term)) ∧
          r.tfidf = Scalar.ofNat (tokens.count r.term) / Scalar.ofNat tokens.length * r.idf ∧
          corpus.tokenDocFrequencies[r.term]? = some (corpus.docFrequency .tokens r.term) ∧
          1 ≤ corpus.docFrequency .tokens r.term ∧
          corpus.docFrequency .tokens r.term ≤ corpus.tokenizedDocs ∧
          (Binary64.ofNat (corpus.docFrequency .tokens r.term)).magnitude ≠ 0) ∧
    (∀ w ∈ (corpus.weights : List (DocWeights ℝ)), ∀ r ∈ w.tokens,
      r.idf = Real.log (corpus.tokenizedDocs / corpus.docFrequency .tokens r.term) ∧
        0 ≤ r.idf ∧ 0 ≤ r.tfidf) ∧
    ∀ ln : Binary64 → Binary64, Binary64.NonNegativeFromOne ln →
      ∀ w ∈ @weights Binary64 (Binary64.withLn ln) corpus, ∀ r ∈ w.tokens,
        1 ≤ (Binary64.ofNat corpus.tokenizedDocs /
          Binary64.ofNat (corpus.docFrequency .tokens r.term)).size ∧
        r.idf.isNaN = false ∧ r.idf.isNegative = false ∧ r.tfidf.NonNegative := by
  refine ⟨fun α _ => ⟨pairwise_docs_weights, fun doc => ?_, fun w hw => ?_⟩,
    fun w hw r hr => nonneg_of_mem_tokens hw hr,
    fun ln hln w hw r hr => nonNegative_of_mem_tokens hln hw hr⟩
  · rw [List.mem_map]
    exact exists_mem_weights_iff
  · obtain ⟨d, tokens, hd, htokens, hlength, hrecords, hrecord⟩ := exists_tokens_of_mem_weights hw
    refine ⟨d, tokens, hd, htokens, hlength, Binary64.magnitude_ofNat_ne_zero (by omega), ?_, ?_, ?_,
      fun r hr => ?_⟩
    · rw [hrecords]; exact pairwise_tokenRecords
    · rw [hrecords]; exact fun t => mem_terms_tokenRecords
    · rw [hrecords]; exact sum_count_tokenRecords
    · obtain ⟨hidf, htfidf⟩ := hrecord r hr
      obtain ⟨htable, hpos, hle⟩ := docFrequency_of_mem_tokens hw hr
      exact ⟨hidf, htfidf, htable, hpos, hle, Binary64.magnitude_ofNat_ne_zero (by omega)⟩

/-- A function that is the logarithm, rounded, at one and at two. -/
def lnUpToTwo (x : Binary64) : Binary64 :=
  if x = .ofNat 1 then .zero else .ofRatio false 6931471805599453 10000000000000000

theorem nonNegativeFromOne_lnUpToTwo : Binary64.NonNegativeFromOne lnUpToTwo := fun x _ _ _ => by
  unfold lnUpToTwo
  split <;> decide +kernel

/-- Two of the three tokens of a document are `cats`, and no other document lists it. -/
theorem token_weights_cats : (∃ w ∈ (cats.weights : List (DocWeights ℝ)), w.doc = 1 ∧
      w.tokens.map (·.term) = ["cats", "running"] ∧
      ∃ r ∈ w.tokens, r.term = "cats" ∧ r.idf = Real.log 2 ∧ r.tfidf = 2 / 3 * Real.log 2) ∧
    Binary64.NonNegativeFromOne lnUpToTwo ∧
      ∃ w ∈ @weights Binary64 (Binary64.withLn lnUpToTwo) cats, ∃ r ∈ w.tokens, r.term = "cats" ∧
        r.idf = .ofRatio false 6931471805599453 10000000000000000 ∧ r.idf.isNegative = false ∧
        r.tfidf.NonNegative := by
  obtain ⟨hall, hreal, hbinary⟩ := token_weights cats
  have htokenized : cats.Tokenized 1 := tokenized_iff.2 ⟨_, _, getElem?_cats, rfl, by decide⟩
  have hn : cats.tokenizedDocs = 2 := by decide +kernel
  have hdf : cats.docFrequency .tokens "cats" = 1 := by decide +kernel
  have hrecord : ∀ (α : Type) [RealScalar α], ∃ w ∈ (cats.weights : List (DocWeights α)), w.doc = 1 ∧
      w.tokens.map (·.term) = ["cats", "running"] ∧ ∃ r ∈ w.tokens, r.term = "cats" ∧
        r.idf = RealScalar.ln (Scalar.ofNat 2 / Scalar.ofNat 1) ∧
        r.tfidf = Scalar.ofNat 2 / Scalar.ofNat 3 * r.idf := by
    intro α _
    obtain ⟨-, hdocs, hrecords⟩ := hall α
    obtain ⟨w, hw, hdoc⟩ := List.mem_map.1 ((hdocs 1).2 htokenized)
    obtain ⟨d, tokens, hd, htokens, -, -, hascending, hterms, -, hrecord⟩ := hrecords w hw
    rw [hdoc, getElem?_cats] at hd
    cases hd
    cases htokens
    have hlist : w.tokens.map (·.term) = ["cats", "running"] :=
      hascending.eq_of_mem_iff (by decide) fun t => by rw [hterms]; grind
    obtain ⟨r, hr, hterm⟩ := List.mem_map.1 ((hterms "cats").2 (by simp))
    obtain ⟨hidf, htfidf, -⟩ := hrecord r hr
    rw [hterm, hn, hdf] at hidf
    rw [hterm] at htfidf
    exact ⟨w, hw, hdoc, hlist, r, hr, hterm, hidf, htfidf⟩
  constructor
  · obtain ⟨w, hw, hdoc, hlist, r, hr, hterm, hidf, htfidf⟩ := hrecord ℝ
    have hlog : r.idf = Real.log 2 := by
      rw [(hreal w hw r hr).1, hterm, hn, hdf]
      norm_num
    refine ⟨w, hw, hdoc, hlist, r, hr, hterm, hlog, ?_⟩
    rw [htfidf, hlog]
    change ((2 : Nat) : ℝ) / (3 : Nat) * _ = _
    norm_num
  · let _ := Binary64.withLn lnUpToTwo
    obtain ⟨w, hw, -, -, r, hr, hterm, hidf, -⟩ := hrecord Binary64
    obtain ⟨-, -, hsign, htfidf⟩ := hbinary lnUpToTwo nonNegativeFromOne_lnUpToTwo w hw r hr
    refine ⟨nonNegativeFromOne_lnUpToTwo, w, hw, r, hr, hterm, ?_, hsign, htfidf⟩
    rw [hidf]
    decide +kernel

end Corpus

end DocSearch
