/-
Term frequencies of lemmas. A lemma is counted by the last of its lines: each token of the document
counts as often as that line lists it. This is the number of tokens that are listed under the lemma
if the last line lists all its tokens, and each of them once; a token on another line only is not
counted, and one that is repeated on the last line is counted for every time it stands there.
-/
import DocSearch.Proofs.Real
import DocSearch.Proofs.Corpus.Frequencies

namespace DocSearch.Corpus

variable {tokens : List String} {lines : List (String × List String)} {l t : String}

/-! ## The lines of a lemma -/

/-- Whether a token is listed under a lemma, on any of its lines. -/
def ListedUnder (lines : List (String × List String)) (l t : String) : Prop :=
  ∃ line ∈ lines, line.1 = l ∧ t ∈ line.2

instance : Decidable (ListedUnder lines l t) :=
  inferInstanceAs (Decidable (∃ line ∈ lines, line.1 = l ∧ t ∈ line.2))

/-- The tokens on the last line of a lemma. -/
def lastSources (lines : List (String × List String)) (l : String) : List String :=
  ((lines.reverse.find? (·.1 = l)).map (·.2)).getD []

theorem listedUnder_of_mem_lastSources (h : t ∈ lastSources lines l) : ListedUnder lines l t := by
  unfold lastSources at h
  cases hfind : lines.reverse.find? (·.1 = l) with
  | none => rw [hfind] at h; cases h
  | some line =>
    rw [hfind] at h
    exact ⟨line, List.mem_reverse.1 (List.mem_of_find?_eq_some hfind),
      by simpa using List.find?_some hfind, h⟩

/-! ## Counting the tokens of a lemma -/

/-- The number of tokens of a document that are listed under a lemma. -/
def listedCount (tokens : List String) (lines : List (String × List String)) (l : String) : Nat :=
  tokens.countP fun t => ListedUnder lines l t

/-- How often the tokens of a document stand on the last line of a lemma, taken together. -/
def lastCount (tokens : List String) (lines : List (String × List String)) (l : String) : Nat :=
  (tokens.map fun t => (lastSources lines l).count t).sum

theorem sum_map_count_cons (y : String) (ys : List String) : ∀ xs : List String,
    (xs.map fun x => (y :: ys).count x).sum = xs.count y + (xs.map fun x => ys.count x).sum
  | [] => rfl
  | x :: xs => by
    rw [List.map_cons, List.sum_cons, sum_map_count_cons y ys xs, List.map_cons, List.sum_cons,
      List.count_cons, List.count_cons, BEq.comm (a := x)]
    omega

/-- Counting the entries of one list in another is the same both ways. -/
theorem sum_map_count_comm (xs : List String) : ∀ ys : List String,
    (ys.map fun y => xs.count y).sum = (xs.map fun x => ys.count x).sum
  | [] => by simp
  | y :: ys => by rw [sum_map_count_cons, List.map_cons, List.sum_cons, sum_map_count_comm xs ys]

theorem getD_frequencies (tokens : List String) (t : String) :
    ((frequencies tokens)[t]?).getD 0 = tokens.count t := by
  rw [frequencies, getElem?_foldl_count_empty]
  split
  · rfl
  · rename_i ht
    exact (List.count_eq_zero.2 ht).symm

/-- A lemma counts the tokens of the document by its sources, and so its sources by the tokens. -/
theorem lemmaCount_eq_lastCount (tokens : List String) (lines : List (String × List String))
    (l : String) :
    lemmaCount (frequencies tokens) (lastSources lines l) = lastCount tokens lines l := by
  have hsum : lemmaCount (frequencies tokens) (lastSources lines l) =
      ((lastSources lines l).map fun t => ((frequencies tokens)[t]?).getD 0).sum := by
    rw [List.sum_eq_foldl, List.foldl_map]
    rfl
  rw [hsum, lastCount, ← sum_map_count_comm]
  simp only [getD_frequencies]

/-! ## Lines that count each token once -/

theorem count_lastSources_of_not_listedUnder (h : ¬ ListedUnder lines l t) :
    (lastSources lines l).count t = 0 :=
  List.count_eq_zero.2 fun ht => h (listedUnder_of_mem_lastSources ht)

/-- A lemma whose last line lists once each token of the document that is listed under it. -/
theorem lastCount_eq_listedCount
    (h : ∀ t ∈ tokens, ListedUnder lines l t → (lastSources lines l).count t = 1) :
    lastCount tokens lines l = listedCount tokens lines l := by
  induction tokens with
  | nil => rfl
  | cons t tokens ih =>
    have ih := ih fun t' ht' => h t' (List.mem_cons_of_mem _ ht')
    unfold lastCount listedCount at ih ⊢
    rw [List.map_cons, List.sum_cons, List.countP_cons, ih, Nat.add_comm]
    by_cases ht : ListedUnder lines l t
    · simp [ht, h t List.mem_cons_self ht]
    · simp [ht, count_lastSources_of_not_listedUnder ht]

/-- Whatever the document is, the tokens under a lemma are counted right exactly if the last line
lists each of them, once. -/
theorem forall_lastCount_eq_iff :
    (∀ tokens, lastCount tokens lines l = listedCount tokens lines l) ↔
      ∀ t, ListedUnder lines l t → (lastSources lines l).count t = 1 := by
  constructor
  · intro h t ht
    -- a document of this token alone shows what the last line has of it
    have hone := h [t]
    simpa [lastCount, listedCount, ht] using hone
  · exact fun h tokens => lastCount_eq_listedCount fun t _ => h t

/-- No document has more counted than it has tokens exactly if the last line repeats none. -/
theorem forall_lastCount_le_iff :
    (∀ tokens, lastCount tokens lines l ≤ tokens.length) ↔ (lastSources lines l).Nodup := by
  rw [List.nodup_iff_count_le_one]
  constructor
  · intro h t
    simpa [lastCount] using h [t]
  · intro h tokens
    have hle := List.sum_le_card_nsmul (tokens.map fun t => (lastSources lines l).count t) 1 (by
      simpa using fun t _ => h t)
    simpa [lastCount] using hle

/-! ## The records of a document -/

section Records

variable {α : Type} [RealScalar α] {total : Nat} {df : Std.ExtTreeMap String Nat}

theorem getElem?_lemmaFrequencies (tokens : List String) (lines : List (String × List String))
    (l : String) : (lemmaFrequencies tokens lines : Std.ExtTreeMap String α)[l]? =
      if ∃ line ∈ lines, line.1 = l then
        some (Scalar.ofNat (lastCount tokens lines l) / Scalar.ofNat tokens.length) else none := by
  unfold lemmaFrequencies
  simp only
  -- of the inserts for one lemma the last stays, which is the first from the end
  rw [getElem?_foldl_insert (fun line : String × List String => line.1),
    Std.ExtTreeMap.getElem?_empty, Option.or_none, ← lemmaCount_eq_lastCount, lastSources]
  cases hfind : lines.reverse.find? (·.1 = l) with
  | none =>
    rw [if_neg, Option.map_none]
    rintro ⟨line, hline, hl⟩
    simpa [hl] using List.find?_eq_none.1 hfind line (List.mem_reverse.2 hline)
  | some line =>
    have hline : line.1 = l := by simpa using List.find?_some hfind
    rw [if_pos ⟨line, List.mem_reverse.1 (List.mem_of_find?_eq_some hfind), hline⟩]
    rfl

/-- There is one record for each lemma that has a line. -/
theorem mem_lemmaRecords {r : WeightRecord α} : r ∈ lemmaRecords total df tokens lines ↔
    (∃ line ∈ lines, line.1 = r.term) ∧ r.idf = idf total df[r.term]? ∧
      r.tfidf = Scalar.ofNat (lastCount tokens lines r.term) / Scalar.ofNat tokens.length * r.idf := by
  refine (mem_map_record (m := lemmaFrequencies tokens lines) (f := id)
    (g := fun l => idf total df[l]?)).trans ?_
  simp only [getElem?_lemmaFrequencies, Option.ite_none_right_eq_some, Option.some.injEq]
  constructor
  · rintro ⟨hidf, tf, ⟨hl, rfl⟩, htfidf⟩
    exact ⟨hl, hidf, htfidf⟩
  · rintro ⟨hl, hidf, htfidf⟩
    exact ⟨hidf, _, ⟨hl, rfl⟩, htfidf⟩

theorem exists_mem_lemmaRecords_iff :
    (∃ r ∈ (lemmaRecords total df tokens lines : List (WeightRecord α)), r.term = l) ↔
      ∃ line ∈ lines, line.1 = l := by
  constructor
  · rintro ⟨r, hr, rfl⟩
    exact (mem_lemmaRecords.1 hr).1
  · intro hl
    let tf : α := Scalar.ofNat (lastCount tokens lines l) / Scalar.ofNat tokens.length
    let idf : α := idf total df[l]?
    exact ⟨⟨l, idf, tf * idf⟩, mem_lemmaRecords.2 ⟨hl, rfl, rfl⟩, rfl⟩

theorem pairwise_lemmaRecords : ((lemmaRecords total df tokens lines : List (WeightRecord α)).map
    (·.term)).Pairwise (· < ·) := by
  have hkeys : (lemmaRecords total df tokens lines : List (WeightRecord α)).map (·.term) =
      (lemmaFrequencies tokens lines : Std.ExtTreeMap String α).keys := by
    rw [lemmaRecords, List.map_map, ← Std.ExtTreeMap.map_fst_toList_eq_keys]
    rfl
  rw [hkeys]
  exact pairwise_keys _

variable {corpus : Corpus} {doc : DocId} {d : CorpusDoc}

/-- A document with tokens and a lemma file has records of its lemmas. -/
theorem exists_mem_weights_lemmas (hd : corpus[doc]? = some d) (htokens : d.tokens = some tokens)
    (hne : tokens ≠ []) (hlines : d.lemmas = some lines) :
    ∃ w ∈ (corpus.weights : List (DocWeights α)), w.doc = doc ∧
      w.lemmas = some (lemmaRecords corpus.tokenizedDocs corpus.lemmaDocFrequencies tokens lines) := by
  refine ⟨⟨doc, _, _⟩, mem_weights.2 ⟨d, tokens, hd, htokens, hne, rfl⟩, rfl, ?_⟩
  rw [hlines]
  rfl

/-- A lemma with a line has a record, which weighs what its last line counts. -/
theorem exists_lemma_record (hd : corpus[doc]? = some d) (htokens : d.tokens = some tokens)
    (hne : tokens ≠ []) (hlines : d.lemmas = some lines) (hl : ∃ line ∈ lines, line.1 = l) :
    ∃ w ∈ (corpus.weights : List (DocWeights α)), w.doc = doc ∧ ∃ rs, w.lemmas = some rs ∧
      ∃ r ∈ rs, r.term = l ∧
        r.idf = RealScalar.ln
          (Scalar.ofNat corpus.tokenizedDocs / Scalar.ofNat (corpus.docFrequency .lemmas l)) ∧
        r.tfidf = Scalar.ofNat (lastCount tokens lines l) / Scalar.ofNat tokens.length * r.idf := by
  obtain ⟨w, hw, hdoc, hrs⟩ := exists_mem_weights_lemmas (α := α) hd htokens hne hlines
  have hrecord : ∃ r ∈ (lemmaRecords corpus.tokenizedDocs corpus.lemmaDocFrequencies tokens lines :
      List (WeightRecord α)), r.term = l := exists_mem_lemmaRecords_iff.2 hl
  obtain ⟨r, hr, rfl⟩ := hrecord
  have hlemmas : recordsIn w .lemmas = some _ := hrs
  exact ⟨w, hw, hdoc, _, hrs, r, hr, rfl, (idf_of_mem_recordsIn hw hlemmas hr).2,
    (mem_lemmaRecords.1 hr).2.2⟩

end Records

/-! ## Exact frequencies -/

theorem tfidf_eq_iff {r : WeightRecord ℝ} {m n total : Nat} (htotal : total ≠ 0)
    (hr : r.tfidf = (m : ℝ) / total * r.idf) :
    r.tfidf = (n : ℝ) / total * r.idf ↔ m = n ∨ r.idf = 0 := by
  have htotal : (total : ℝ) ≠ 0 := Nat.cast_ne_zero.2 htotal
  rw [hr, mul_eq_mul_right_iff, div_left_inj' htotal, Nat.cast_inj]

/-- A document with tokens and a lemma file has weights once, with one record for each lemma that has
a line, in ascending order. Its weight is the part of the tokens that stand on the last line of the
lemma, repetitions included, times its frequency. This is the part of the tokens that are listed under
the lemma on any line exactly if both numbers are the same or the frequency is zero, and they are the
same where the last line lists once each token of the document that is listed at all. With the lemma
file as it is, they are the same for every document exactly if the last line of the lemma lists each
of its tokens once; and no document has more counted than it has tokens exactly if no token is
repeated on that line. -/
theorem lemma_weights_by_lastLine {corpus : Corpus} {doc : DocId} {d : CorpusDoc}
    {tokens : List String} {lines : List (String × List String)} (hd : corpus[doc]? = some d)
    (htokens : d.tokens = some tokens) (hne : tokens ≠ []) (hlines : d.lemmas = some lines) :
    ∃ w ∈ (corpus.weights : List (DocWeights ℝ)), w.doc = doc ∧
      (∀ w' ∈ (corpus.weights : List (DocWeights ℝ)), w'.doc = doc → w' = w) ∧
      ∃ rs, w.lemmas = some rs ∧ (rs.map (·.term)).Pairwise (· < ·) ∧
        (∀ l, (∃ r ∈ rs, r.term = l) ↔ ∃ line ∈ lines, line.1 = l) ∧
        ∀ r ∈ rs, r.idf = Real.log (corpus.tokenizedDocs / corpus.docFrequency .lemmas r.term) ∧
          r.tfidf = (lastCount tokens lines r.term : ℝ) / tokens.length * r.idf ∧
          (r.tfidf = (listedCount tokens lines r.term : ℝ) / tokens.length * r.idf ↔
            lastCount tokens lines r.term = listedCount tokens lines r.term ∨ r.idf = 0) ∧
          ((∀ t ∈ tokens, ListedUnder lines r.term t → (lastSources lines r.term).count t = 1) →
            lastCount tokens lines r.term = listedCount tokens lines r.term) ∧
          ((∀ ts, lastCount ts lines r.term = listedCount ts lines r.term) ↔
            ∀ t, ListedUnder lines r.term t → (lastSources lines r.term).count t = 1) ∧
          ((∀ ts, lastCount ts lines r.term ≤ ts.length) ↔ (lastSources lines r.term).Nodup) := by
  obtain ⟨w, hw, hdoc, hrs⟩ := exists_mem_weights_lemmas (α := ℝ) hd htokens hne hlines
  refine ⟨w, hw, hdoc, fun w' hw' hdoc' => eq_of_mem_weights hw' hw (hdoc'.trans hdoc.symm), _, hrs,
    pairwise_lemmaRecords, fun l => exists_mem_lemmaRecords_iff, fun r hr => ?_⟩
  have hlemmas : recordsIn w .lemmas = some _ := hrs
  obtain ⟨-, -, htfidf⟩ := mem_lemmaRecords.1 hr
  have hlength : tokens.length ≠ 0 := mt List.length_eq_zero_iff.1 hne
  exact ⟨(idf_of_mem_recordsIn hw hlemmas hr).2, htfidf, tfidf_eq_iff hlength htfidf,
    lastCount_eq_listedCount, forall_lastCount_eq_iff, forall_lastCount_le_iff⟩

/-- A document with a line for each of its lemmas, and another document. -/
def cats : Corpus :=
  ((Corpus.addText ∅ .tokens 1 "cats\nrunning\ncats\n").addText .lemmas 1
    "cat cats\nrun running\n").addText .tokens 2 "dog\n"

theorem getElem?_cats : cats[(1 : DocId)]? =
    some ⟨some ["cats", "running", "cats"], some [("cat", ["cats"]), ("run", ["running"])]⟩ := by
  decide +kernel

theorem lemma_weights_by_lastLine_cats : ∃ d tokens lines, cats[(1 : DocId)]? = some d ∧
    d.tokens = some tokens ∧ tokens ≠ [] ∧ d.lemmas = some lines ∧
    ∃ w ∈ (cats.weights : List (DocWeights ℝ)), w.doc = 1 ∧ ∃ rs, w.lemmas = some rs ∧
      ∃ r ∈ rs, r.term = "cat" ∧ r.tfidf = 2 / 3 * r.idf := by
  obtain ⟨w, hw, hdoc, -, rs, hrs, -, hterms, hrecords⟩ :=
    lemma_weights_by_lastLine getElem?_cats rfl (by decide) rfl
  obtain ⟨r, hr, hterm⟩ := (hterms "cat").2 ⟨("cat", ["cats"]), by decide, rfl⟩
  refine ⟨_, _, _, getElem?_cats, rfl, by decide, rfl, w, hw, hdoc, rs, hrs, r, hr, hterm, ?_⟩
  have hcount : lastCount ["cats", "running", "cats"] [("cat", ["cats"]), ("run", ["running"])] "cat" =
      2 := by decide
  obtain ⟨-, htfidf, -⟩ := hrecords r hr
  rw [htfidf, hterm, hcount]
  norm_num

/-- A document with two lines for a lemma, and another document. -/
def twoLines : Corpus :=
  ((Corpus.addText ∅ .tokens 1 "running\nran\n").addText .lemmas 1
    "run running\nrun ran\n").addText .tokens 2 "cat\n"

theorem getElem?_twoLines : twoLines[(1 : DocId)]? =
    some ⟨some ["running", "ran"], some [("run", ["running"]), ("run", ["ran"])]⟩ := by
  decide +kernel

/-- Both tokens come from `run`, and one of them is counted. -/
theorem not_lemma_weights_by_lines_twoLines : ∃ d tokens lines, twoLines[(1 : DocId)]? = some d ∧
    d.tokens = some tokens ∧ tokens ≠ [] ∧ d.lemmas = some lines ∧
    ∃ w ∈ (twoLines.weights : List (DocWeights ℝ)), w.doc = 1 ∧ ∃ rs, w.lemmas = some rs ∧
      ∃ r ∈ rs, r.term = "run" ∧ r.idf = Real.log 2 ∧ r.tfidf = 1 / 2 * Real.log 2 ∧
        (listedCount tokens lines "run" : ℝ) / tokens.length * r.idf = Real.log 2 ∧
        r.tfidf ≠ (listedCount tokens lines "run" : ℝ) / tokens.length * r.idf := by
  obtain ⟨w, hw, hdoc, rs, hrs, r, hr, hterm, hidf, htfidf⟩ := exists_lemma_record (α := ℝ)
    getElem?_twoLines rfl (by decide) rfl ⟨("run", ["ran"]), by decide, rfl⟩
  have hdocs : twoLines.tokenizedDocs = 2 := by decide +kernel
  have hdf : twoLines.docFrequency .lemmas "run" = 1 := by decide +kernel
  have hlast : lastCount ["running", "ran"] [("run", ["running"]), ("run", ["ran"])] "run" = 1 := by
    decide
  have hlisted : listedCount ["running", "ran"] [("run", ["running"]), ("run", ["ran"])] "run" = 2 := by
    decide
  have hlog : r.idf = Real.log 2 := by
    rw [hidf, hdocs, hdf]
    change Real.log ((2 : Nat) / (1 : Nat)) = _
    norm_num
  have hhalf : r.tfidf = 1 / 2 * Real.log 2 := by
    rw [htfidf, hlast, hlog]
    change ((1 : Nat) : ℝ) / (2 : Nat) * _ = _
    norm_num
  have hall : ((2 : Nat) : ℝ) / ["running", "ran"].length * r.idf = Real.log 2 := by
    rw [hlog]
    norm_num
  refine ⟨_, _, _, getElem?_twoLines, rfl, by decide, rfl, w, hw, hdoc, rs, hrs, r, hr, hterm, hlog,
    hhalf, ?_, ?_⟩
  · rw [hlisted, hall]
  · rw [hlisted, hall, hhalf]
    have hpos : 0 < Real.log 2 := Real.log_pos one_lt_two
    linarith

end DocSearch.Corpus
