/-
Signs of lemma weights. A lemma is listed by documents with a lemma file, and its frequency is the
logarithm of the number of documents with a tokens file over theirs. As a document may have the one
file without the other, there can be more of the former, and then the frequency is negative, and with
it the weight of the lemma in every document that has a token on its last line.
-/
import DocSearch.Proofs.Corpus.LemmaFrequencies

namespace DocSearch.Corpus

/-! ## Documents with one of the files -/

/-- Both sides count what has one of two properties. -/
theorem countP_add_countP_sdiff {β : Type} (p q : β → Prop) [DecidablePred p] [DecidablePred q] :
    ∀ xs : List β, (xs.countP fun x => p x) + (xs.countP fun x => q x ∧ ¬ p x) =
      (xs.countP fun x => q x) + xs.countP fun x => p x ∧ ¬ q x
  | [] => rfl
  | x :: xs => by
    have ih := countP_add_countP_sdiff p q xs
    simp only [List.countP_cons, decide_eq_true_eq]
    by_cases hp : p x <;> by_cases hq : q x <;> simp only [hp, hq, not_true_eq_false,
      not_false_eq_true, and_self, and_false, if_true, if_false] <;> omega

/-- A lemma is listed by no more documents than have a tokens file exactly if those that list it
without having one are no more than those that have one and do not list it. -/
theorem docFrequency_lemmas_le_iff (corpus : Corpus) (l : String) :
    corpus.docFrequency .lemmas l ≤ corpus.tokenizedDocs ↔
      (corpus.values.countP fun d => l ∈ termsIn d .lemmas ∧ ¬ d.tokens.isSome) ≤
        corpus.values.countP fun d => d.tokens.isSome ∧ l ∉ termsIn d .lemmas := by
  have hboth := countP_add_countP_sdiff (fun d => l ∈ termsIn d .lemmas)
    (fun d : CorpusDoc => d.tokens.isSome = true) corpus.values
  have hdocs : (corpus.values.countP fun d => decide (d.tokens.isSome = true)) =
      corpus.tokenizedDocs := by
    rw [tokenizedDocs, ← List.countP_eq_length_filter]
    simp only [Bool.decide_eq_true]
  -- the documents with both files count on both sides
  rw [hdocs] at hboth
  unfold docFrequency
  omega

/-- Where each document with a lemma file has a tokens file, no lemma is listed by more documents. -/
theorem docFrequency_lemmas_le {corpus : Corpus}
    (h : ∀ d ∈ corpus.values, d.lemmas.isSome → d.tokens.isSome) (l : String) :
    corpus.docFrequency .lemmas l ≤ corpus.tokenizedDocs := by
  unfold tokenizedDocs docFrequency
  rw [← List.countP_eq_length_filter]
  refine List.countP_mono_left fun d hd hl => h d hd ?_
  cases hlines : d.lemmas with
  | none => simp [termsIn, hlines] at hl
  | some lines => rfl

/-! ## Signs -/

theorem log_div_nonneg_iff {n df : Nat} (hn : 0 < n) (hdf : 0 < df) :
    0 ≤ Real.log (n / df) ↔ df ≤ n := by
  have hn : (0 : ℝ) < n := Nat.cast_pos.2 hn
  have hdf : (0 : ℝ) < df := Nat.cast_pos.2 hdf
  rw [Real.log_nonneg_iff (div_pos hn hdf), one_le_div hdf, Nat.cast_le]

theorem lastCount_eq_zero_iff {tokens : List String} {lines : List (String × List String)} {l : String} :
    lastCount tokens lines l = 0 ↔ ∀ t ∈ tokens, t ∉ lastSources lines l := by
  simp [lastCount, List.sum_eq_zero_iff, List.count_eq_zero]

/-- A weight has the sign of its frequency, unless nothing is counted. -/
theorem frequency_mul_nonneg_iff {m total : Nat} (htotal : 0 < total) {x : ℝ} :
    0 ≤ (m : ℝ) / total * x ↔ 0 ≤ x ∨ m = 0 := by
  have htotal : (0 : ℝ) < total := Nat.cast_pos.2 htotal
  rcases Nat.eq_zero_or_pos m with rfl | hm
  · simp
  · have hpos : (0 : ℝ) < m / total := div_pos (Nat.cast_pos.2 hm) htotal
    rw [mul_nonneg_iff_of_pos_left hpos, or_iff_left hm.ne']

/-- A lemma with a record is listed by a document, and the record has the logarithm of the number of
documents with a tokens file over that of the documents that list it. This is not negative exactly if
the latter are no more than the former: if those without a tokens file among them are no more than
the documents with one that do not list it, as where each document with a lemma file has a tokens
file. The weight is not negative exactly if this holds or no token of the document stands on the last
line of the lemma. -/
theorem lemma_weight_signs {corpus : Corpus} {w : DocWeights ℝ}
    (hw : w ∈ (corpus.weights : List (DocWeights ℝ))) {rs : List (WeightRecord ℝ)}
    (hrs : w.lemmas = some rs) {r : WeightRecord ℝ} (hr : r ∈ rs) :
    1 ≤ corpus.docFrequency .lemmas r.term ∧
    r.idf = Real.log (corpus.tokenizedDocs / corpus.docFrequency .lemmas r.term) ∧
    (0 ≤ r.idf ↔ corpus.docFrequency .lemmas r.term ≤ corpus.tokenizedDocs) ∧
    (corpus.docFrequency .lemmas r.term ≤ corpus.tokenizedDocs ↔
      (corpus.values.countP fun d => r.term ∈ termsIn d .lemmas ∧ ¬ d.tokens.isSome) ≤
        corpus.values.countP fun d => d.tokens.isSome ∧ r.term ∉ termsIn d .lemmas) ∧
    ((∀ d ∈ corpus.values, d.lemmas.isSome → d.tokens.isSome) →
      corpus.docFrequency .lemmas r.term ≤ corpus.tokenizedDocs) ∧
    ∃ d tokens lines, corpus[w.doc]? = some d ∧ d.tokens = some tokens ∧ d.lemmas = some lines ∧
      (0 ≤ r.tfidf ↔ corpus.docFrequency .lemmas r.term ≤ corpus.tokenizedDocs ∨
        ∀ t ∈ tokens, t ∉ lastSources lines r.term) := by
  have hlemmas : recordsIn w .lemmas = some rs := hrs
  obtain ⟨hdf, hidf⟩ := idf_of_mem_recordsIn hw hlemmas hr
  have hsign : 0 ≤ r.idf ↔ corpus.docFrequency .lemmas r.term ≤ corpus.tokenizedDocs := by
    rw [hidf]
    exact log_div_nonneg_iff (tokenizedDocs_pos hw) hdf
  refine ⟨hdf, hidf, hsign, docFrequency_lemmas_le_iff corpus r.term,
    fun h => docFrequency_lemmas_le h r.term, ?_⟩
  obtain ⟨d, tokens, hd, htokens, hne, heq⟩ := mem_weights.1 hw
  rw [heq] at hrs
  obtain ⟨lines, hlines, rfl⟩ := Option.map_eq_some_iff.1 hrs
  obtain ⟨-, -, htfidf⟩ := mem_lemmaRecords.1 hr
  refine ⟨d, tokens, lines, hd, htokens, hlines, ?_⟩
  rw [htfidf, ← hsign, ← lastCount_eq_zero_iff]
  exact frequency_mul_nonneg_iff (List.length_pos_iff.2 hne)

theorem lemma_weight_signs_cats : ∃ w ∈ (cats.weights : List (DocWeights ℝ)), ∃ rs, w.lemmas = some rs ∧
    ∃ r ∈ rs, r.term = "cat" ∧ 1 ≤ cats.docFrequency .lemmas r.term ∧ 0 ≤ r.idf := by
  obtain ⟨w, hw, -, rs, hrs, r, hr, hterm, -⟩ := exists_lemma_record (α := ℝ) getElem?_cats rfl
    (by decide) rfl ⟨("cat", ["cats"]), by decide, rfl⟩
  obtain ⟨hpos, -, hsign, -, hle, -⟩ := lemma_weight_signs hw hrs hr
  have hfiles : ∀ d ∈ cats.values, d.lemmas.isSome → d.tokens.isSome := by decide +kernel
  exact ⟨w, hw, rs, hrs, r, hr, hterm, hpos, hsign.2 (hle hfiles)⟩

/-- Two documents that list a lemma, one of them without a tokens file. -/
def untokenized : Corpus :=
  ((Corpus.addText ∅ .tokens 1 "cats\n").addText .lemmas 1 "cat cats\n").addText .lemmas 2 "cat cats\n"

theorem getElem?_untokenized :
    untokenized[(1 : DocId)]? = some ⟨some ["cats"], some [("cat", ["cats"])]⟩ := by
  decide +kernel

/-- Two documents list `cat` and one has a tokens file. -/
theorem not_lemma_weight_nonneg_untokenized :
    ∃ w ∈ (untokenized.weights : List (DocWeights ℝ)), ∃ rs, w.lemmas = some rs ∧
      ∃ r ∈ rs, ¬ untokenized.docFrequency .lemmas r.term ≤ untokenized.tokenizedDocs ∧
        r.idf = Real.log (1 / 2) ∧ ¬ 0 ≤ r.idf ∧ ¬ 0 ≤ r.tfidf := by
  obtain ⟨w, hw, -, rs, hrs, r, hr, hterm, hidf, htfidf⟩ := exists_lemma_record (α := ℝ)
    getElem?_untokenized rfl (by decide) rfl ⟨("cat", ["cats"]), by decide, rfl⟩
  have hdocs : untokenized.tokenizedDocs = 1 := by decide +kernel
  have hdf : untokenized.docFrequency .lemmas "cat" = 2 := by decide +kernel
  have hcount : lastCount ["cats"] [("cat", ["cats"])] "cat" = 1 := by decide
  have hlog : r.idf = Real.log (1 / 2) := by
    rw [hidf, hdocs, hdf]
    change Real.log ((1 : Nat) / (2 : Nat)) = _
    norm_num
  have hsame : r.tfidf = r.idf := by
    rw [htfidf, hcount]
    change ((1 : Nat) : ℝ) / (1 : Nat) * _ = _
    norm_num
  have hneg : r.idf < 0 := by
    rw [hlog]
    exact Real.log_neg (by norm_num) (by norm_num)
  refine ⟨w, hw, rs, hrs, r, hr, ?_, hlog, hneg.not_ge, ?_⟩
  · rw [hterm, hdf, hdocs]
    decide
  · rw [hsame]
    exact hneg.not_ge

end DocSearch.Corpus
