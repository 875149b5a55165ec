/-
Queries as bags of words. Nothing of a query is used but how often each term occurs among those that
its tokens stand for, one after the other. So two texts with the same tokens in another order have
the same vector in either space, and with it the same hits. A term is weighed by its counter, which
shows how often it occurs unless it has been full.
-/
import DocSearch.Defaults
import DocSearch.Proofs.Inserts
import DocSearch.Proofs.Real
import DocSearch.Proofs.Text.Tokens

namespace DocSearch

open Text

namespace Model

variable {α : Type} {m : Model α} {s : Space} {text text' term : String}

/-! ## The terms of a query -/

/-- The terms that the tokens of a text stand for, one after the other. -/
def queryTerms (m : Model α) (s : Space) (text : String) : List String :=
  (tokenize text).flatMap (m.expansion s)

theorem queryTerms_perm (h : (tokenize text).Perm (tokenize text')) :
    (m.queryTerms s text).Perm (m.queryTerms s text') :=
  h.flatMap_right _

/-! ## Counters -/

section Counters

variable {counts : Std.ExtTreeMap String UInt32} {n : Nat}

theorem getElem?_addCounts (term : String) : ∀ (ts : List String)
    (counts : Std.ExtTreeMap String UInt32), (addCounts counts n ts)[term]? =
      if term ∈ ts then some (counts[term]?.getD 0 + UInt32.ofNat (n * ts.count term))
      else counts[term]?
  | [], _ => by rw [if_neg List.not_mem_nil]; rfl
  | t :: ts, counts => by
    have hstep : addCounts counts n (t :: ts) =
      addCounts (counts.alter t fun c => some (c.getD 0 + UInt32.ofNat n)) n ts := rfl
    rw [hstep, getElem?_addCounts term ts]
    simp only [Std.ExtTreeMap.getElem?_alter, Std.compare_eq_iff_eq]
    by_cases ht : t = term
    · subst ht
      rw [if_pos rfl, if_pos List.mem_cons_self, List.count_cons_self, Option.getD_some, Nat.mul_succ,
        Nat.add_comm _ n, UInt32.ofNat_add, ← UInt32.add_assoc]
      split
      · rfl
      · rename_i hmem
        rw [List.count_eq_zero.2 hmem, Nat.mul_zero]
        exact congrArg some (UInt32.add_zero _).symm
    · rw [if_neg ht, List.count_cons_of_ne ht]
      simp only [List.mem_cons, Ne.symm ht, false_or]

/-- Expanded each as often as it is there, tokens give every term the number of its occurrences. -/
theorem getElem?_foldl_addCounts (f : String → List String) (term : String) :
    ∀ (es : List (String × Nat)) (counts : Std.ExtTreeMap String UInt32),
      (es.foldl (fun counts e => addCounts counts e.2 (f e.1)) counts)[term]? =
        if ∃ e ∈ es, term ∈ f e.1 then
          some (counts[term]?.getD 0 + UInt32.ofNat (es.map fun e => e.2 * (f e.1).count term).sum)
        else counts[term]?
  | [], _ => by rw [if_neg (by simp)]; rfl
  | (t, n) :: es, counts => by
    rw [List.foldl_cons, getElem?_foldl_addCounts f term es, getElem?_addCounts, List.map_cons,
      List.sum_cons, UInt32.ofNat_add, ← UInt32.add_assoc]
    simp only [List.mem_cons, exists_eq_or_imp]
    by_cases hterm : term ∈ f t
    · have hor : term ∈ f t ∨ ∃ e ∈ es, term ∈ f e.1 := .inl hterm
      rw [if_pos hterm, if_pos hor, Option.getD_some]
      split
      · rfl
      · rename_i hno
        have hzero : (es.map fun e => e.2 * (f e.1).count term).sum = 0 := by
          refine List.sum_eq_zero fun k hk => ?_
          obtain ⟨e, he, rfl⟩ := List.mem_map.1 hk
          rw [List.count_eq_zero.2 fun hmem => hno ⟨e, he, hmem⟩, Nat.mul_zero]
        rw [hzero]
        exact congrArg some (UInt32.add_zero _).symm
    · rw [if_neg hterm, List.count_eq_zero.2 hterm, Nat.mul_zero]
      simp only [hterm, false_or]
      split
      · exact congrArg (some <| · + _) (UInt32.add_zero _).symm
      · rfl

end Counters

/-- A term has a counter if it occurs, which shows the number of its occurrences up to a multiple of
what a counter can hold. -/
theorem getElem?_queryCounts (m : Model α) (s : Space) (text term : String) :
    (m.queryCounts s text)[term]? = if term ∈ m.queryTerms s text then
      some (UInt32.ofNat ((m.queryTerms s text).count term)) else none := by
  have hsum := sum_map_toList_foldl_count (fun t => (m.expansion s t).count term) (tokenize text)
  have hcount : (m.queryTerms s text).count term =
      ((tokenize text).map fun t => (m.expansion s t).count term).sum := List.count_flatMap
  have hmem : (∃ e ∈ (tokenCounts (tokenize text)).toList, term ∈ m.expansion s e.1) ↔
      term ∈ m.queryTerms s text := by
    rw [queryTerms, List.mem_flatMap, tokenCounts, toList_foldl_count]
    simp only [List.mem_map, exists_exists_and_eq_and, Std.ExtTreeMap.mem_keys,
      Std.ExtTreeMap.mem_iff_isSome_getElem?, getElem?_foldl_count_empty]
    simp
  rw [queryCounts, getElem?_foldl_addCounts, tokenCounts, hsum, ← hcount,
    Std.ExtTreeMap.getElem?_empty, ← tokenCounts]
  simp only [hmem]
  split
  · exact congrArg some (UInt32.zero_add _)
  · rfl

/-- The counters are those of a loop that adds one for each occurrence, in the order of the text. -/
theorem queryCounts_eq_foldl (m : Model α) (s : Space) (text : String) :
    m.queryCounts s text = (m.queryTerms s text).foldl
      (fun counts term => counts.alter term fun c => some (c.getD 0 + 1)) ∅ := by
  refine Std.ExtTreeMap.ext_getElem? fun {term} => ?_
  have hloop := getElem?_addCounts (n := 1) term (m.queryTerms s text) ∅
  rw [Nat.one_mul, Std.ExtTreeMap.getElem?_empty, Option.getD_none, UInt32.zero_add] at hloop
  exact (getElem?_queryCounts m s text term).trans hloop.symm

/-! ## The vector of a query -/

variable [RealScalar α]

/-- A term is weighed by its counter. -/
theorem getElem?_vectorize (m : Model α) (s : Space) (text term : String) :
    (m.vectorize s text)[term]? = if term ∈ m.queryTerms s text then
      some (m.queryWeight s term (.ofNat ((m.queryTerms s text).count term))) else none := by
  rw [vectorize, Std.ExtTreeMap.getElem?_map, getElem?_queryCounts]
  split
  · rfl
  · rfl

theorem vectorize_of_perm (h : (tokenize text).Perm (tokenize text')) :
    m.vectorize s text = m.vectorize s text' := by
  have hterms : (m.queryTerms s text).Perm (m.queryTerms s text') := queryTerms_perm h
  refine Std.ExtTreeMap.ext_getElem? fun {term} => ?_
  simp only [getElem?_vectorize, hterms.mem_iff, hterms.count_eq]

theorem getElem?_vectorize_eq_some_iff {weight : α} : (m.vectorize s text)[term]? = some weight ↔
    term ∈ m.queryTerms s text ∧
      weight = m.queryWeight s term (.ofNat ((m.queryTerms s text).count term)) := by
  rw [getElem?_vectorize]
  split
  · rename_i h
    rw [Option.some.injEq, eq_comm, and_iff_right h]
  · rename_i h
    exact iff_of_false nofun fun hterm => h hterm.1

end Model

/-! ## The hits of a query -/

namespace Engine

variable {α : Type} [RealScalar α] [Ord α] {e : Engine α} {s : Space} {text text' : String}

/-- A search depends on the vector of its query only. -/
theorem search_congr (h : e.model.vectorize s text = e.model.vectorize s text') (k : Nat) :
    e.search s text k = e.search s text' k := by
  unfold search candidates
  rw [h]

theorem searchFused_congr (h : ∀ s, e.model.vectorize s text = e.model.vectorize s text') (k : Nat) :
    e.searchFused text k = e.searchFused text' k := by
  unfold searchFused
  simp only [search_congr (h .tokens), search_congr (h .lemmas)]

/-- Texts with the same tokens in any order have the same vectors, and the same hits in each space and
in both. A vector has exactly the terms that the tokens of its text stand for, and weighs each by one
more than the logarithm of its counter, times its frequency in the space, or times that of an unseen
term where the space has none. The counters are those of a loop that adds one for each occurrence. A
counter starts again from zero when it is full; as long as it is not, it is the number of the
occurrences of the term among them all. -/
theorem query_isBag (e : Engine α) (h : (tokenize text).Perm (tokenize text')) :
    (∀ s, e.model.vectorize s text = e.model.vectorize s text') ∧
    (∀ s k, e.search s text k = e.search s text' k) ∧
    (∀ k, e.searchFused text k = e.searchFused text' k) ∧
    (∀ s, e.model.queryCounts s text = ((tokenize text).flatMap (e.model.expansion s)).foldl
      (fun counts term => counts.alter term fun c => some (c.getD 0 + 1)) ∅) ∧
    (∀ s term weight, (e.model.vectorize s text)[term]? = some weight ↔
      term ∈ (tokenize text).flatMap (e.model.expansion s) ∧
      weight = (Scalar.one + RealScalar.ln (Scalar.ofNat
          (((tokenize text).flatMap (e.model.expansion s)).count term % UInt32.size))) *
        ((e.model.space s).idf[term]?).getD e.model.unseenIdf) ∧
    ∀ s term weight, ((tokenize text).flatMap (e.model.expansion s)).count term < UInt32.size →
      ((e.model.vectorize s text)[term]? = some weight ↔
        term ∈ (tokenize text).flatMap (e.model.expansion s) ∧
        weight = (Scalar.one + RealScalar.ln (Scalar.ofNat
            (((tokenize text).flatMap (e.model.expansion s)).count term))) *
          ((e.model.space s).idf[term]?).getD e.model.unseenIdf) := by
  have hvector : ∀ s, e.model.vectorize s text = e.model.vectorize s text' := fun s =>
    Model.vectorize_of_perm h
  have hweight : ∀ s term weight, (e.model.vectorize s text)[term]? = some weight ↔ _ :=
    fun s term weight => Model.getElem?_vectorize_eq_some_iff
  simp only [Model.queryTerms, Model.queryWeight, UInt32.toNat_ofNat'] at hweight
  refine ⟨hvector, fun s k => search_congr (hvector s) k, searchFused_congr hvector,
    fun s => Model.queryCounts_eq_foldl e.model s text, hweight, ?_⟩
  intro s term weight hcount
  rw [hweight, Nat.mod_eq_of_lt hcount]

/-- A document with the lemma `cat`, for which both `cats` and `kittens` stand. -/
def lemmatized : Engine Binary64 where
  model :=
    let one := Binary64.ofNat 1
    { tokens := TermSpace.ofDocuments [(1, [WeightRecord.mk "cats" one one])]
      lemmas := TermSpace.ofDocuments [(1, [WeightRecord.mk "cat" one one])]
      table := Std.ExtTreeMap.ofList [("cats", ["cat"]), ("kittens", ["cat", "young"])] }
  authority := none
  config := RankingConfig.standard

theorem query_isBag_lemmatized :
    (tokenize "kittens cats").Perm (tokenize "Cats, KITTENS!") ∧
    (∀ s, lemmatized.model.vectorize s "kittens cats" =
      lemmatized.model.vectorize s "Cats, KITTENS!") ∧
    (∀ k, lemmatized.searchFused "kittens cats" k = lemmatized.searchFused "Cats, KITTENS!" k) ∧
    (lemmatized.model.vectorize .lemmas "kittens cats")["cat"]? =
      some ((Scalar.one + RealScalar.ln (Scalar.ofNat 2)) * Binary64.ofNat 1) := by
  have hperm : (tokenize "kittens cats").Perm (tokenize "Cats, KITTENS!") := by decide +kernel
  obtain ⟨hvectors, -, hfused, -, -, hweights⟩ := query_isBag lemmatized hperm
  have hcount : ((tokenize "kittens cats").flatMap (lemmatized.model.expansion .lemmas)).count "cat" =
      2 := by decide +kernel
  refine ⟨hperm, hvectors, hfused,
    (hweights .lemmas "cat" _ (by rw [hcount]; decide)).2 ⟨by decide +kernel, ?_⟩⟩
  have hidf : (lemmatized.model.space .lemmas).idf["cat"]? = some (Binary64.ofNat 1) := by
    decide +kernel
  rw [hcount, hidf, Option.getD_some]

/-- A model without documents, in which the token `a` stands `n` times for the lemma `b`. -/
def repeating (n : Nat) : Model ℝ where
  tokens := .empty
  lemmas := .empty
  table := Std.ExtTreeMap.ofList [("a", List.replicate n "b")]

/-- The token `a` as often as it stands for the lemma. -/
def repeatingQuery (n : Nat) : String := " ".intercalate (List.replicate n "a")

theorem queryTerms_repeating (n : Nat) :
    (tokenize (repeatingQuery n)).flatMap ((repeating n).expansion .lemmas) =
      (List.replicate n (List.replicate n "b")).flatten := by
  have htokens : tokenize (repeatingQuery n) = List.replicate n "a" :=
    read_intercalate (by decide) tokenize_append_space fun token h => by
      rw [List.eq_of_mem_replicate h]
      decide +kernel
  have hexpansion : (repeating n).expansion .lemmas "a" = List.replicate n "b" := by
    simp [Model.expansion, repeating]
  rw [htokens, List.flatMap_replicate, hexpansion]

theorem count_queryTerms_repeating (n : Nat) :
    ((tokenize (repeatingQuery n)).flatMap ((repeating n).expansion .lemmas)).count "b" = n * n := by
  rw [queryTerms_repeating, List.count_flatten, List.map_replicate, List.sum_replicate_nat,
    List.count_replicate_self]

/-- A counter that has been full gives another weight than the number of occurrences would. -/
theorem not_query_isBag_repeating :
    ((tokenize (repeatingQuery 65536)).flatMap ((repeating 65536).expansion .lemmas)).count "b" =
      4294967296 ∧
    ((repeating 65536).vectorize .lemmas (repeatingQuery 65536))["b"]? ≠
      some ((Scalar.one + RealScalar.ln (Scalar.ofNat 4294967296)) *
        (((repeating 65536).space .lemmas).idf["b"]?).getD (repeating 65536).unseenIdf) := by
  have hcount := count_queryTerms_repeating 65536
  have hidf : (((repeating 65536).space .lemmas).idf["b"]?).getD (repeating 65536).unseenIdf =
      (1 : ℝ) := by
    have hunseen : (repeating 65536).unseenIdf = Real.log ((0 + 1 : ℕ) : ℝ) + ((1 : ℕ) : ℝ) := rfl
    have hnone : ((repeating 65536).space .lemmas).idf["b"]? = none := Std.ExtTreeMap.getElem?_empty
    rw [hnone, Option.getD_none, hunseen]
    simp
  refine ⟨hcount, fun hweight => ?_⟩
  obtain ⟨-, hweight⟩ := Model.getElem?_vectorize_eq_some_iff.1 hweight
  rw [Model.queryWeight, hidf, Model.queryTerms, hcount] at hweight
  have hfull : (UInt32.ofNat (65536 * 65536)).toNat = 0 := by decide
  have hlog : Real.log ((4294967296 : ℕ) : ℝ) = Real.log ((0 : ℕ) : ℝ) := by
    rw [hfull] at hweight
    exact add_left_cancel (mul_right_cancel₀ one_ne_zero hweight)
  rw [Nat.cast_zero, Real.log_zero] at hlog
  exact absurd hlog (Real.log_pos (by norm_num)).ne'

end Engine

end DocSearch
