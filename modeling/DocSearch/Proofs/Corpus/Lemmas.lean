/-
The lemma table of a corpus. It lists for every token, ascending, the lemmas of the lines that the
token stands in, all in lowercase; what it lists is a term of the inverted index.
-/
import DocSearch.Proofs.Corpus.Index
import DocSearch.Proofs.LemmaTable.Reload

namespace DocSearch.Corpus

open Text

variable {c : Corpus} {token l : String} {ls : List String}

/-- Whether some document has a line for a lemma with a token, apart from case. -/
def HasLemma (c : Corpus) (token l : String) : Prop :=
  ∃ doc, ∃ line ∈ lemmaLines (c.docOf doc),
    lowerString line.1 = l ∧ ∃ t ∈ line.2, lowerString t = token

theorem mem_allLemmaLines {corpus : Corpus} {e : DocId × String × List String} :
    e ∈ corpus.allLemmaLines ↔ e.2 ∈ lemmaLines (corpus.docOf e.1) := by
  unfold allLemmaLines docOf
  rw [List.mem_flatMap]
  constructor
  · rintro ⟨⟨doc, d⟩, hd, he⟩
    obtain ⟨line, hline, rfl⟩ := List.mem_map.1 he
    rw [Std.ExtTreeMap.mem_toList_iff_getElem?_eq_some.1 hd]
    exact hline
  · intro h
    cases hd : corpus[e.1]? with
    | none => rw [hd] at h; cases h
    | some d =>
      rw [hd] at h
      exact ⟨(e.1, d), Std.ExtTreeMap.mem_toList_iff_getElem?_eq_some.2 hd,
        List.mem_map.2 ⟨e.2, h, rfl⟩⟩

/-! ## The lemmas of a token -/

theorem tokenLemmas_eq_group (c : Corpus) : c.tokenLemmas = group Prod.fst Prod.snd
    (c.allLemmaLines.flatMap fun e => e.2.2.map fun t => (lowerString t, lowerString e.2.1)) ∅ := rfl

theorem mem_tokenLemmas : (∃ s, c.tokenLemmas[token]? = some s ∧ l ∈ s) ↔ c.HasLemma token l := by
  rw [tokenLemmas_eq_group, mem_getElem?_group]
  simp only [Std.ExtTreeMap.getElem?_empty, reduceCtorEq, false_and, exists_false, false_or]
  constructor
  · rintro ⟨p, hp, rfl, rfl⟩
    obtain ⟨e, he, hp⟩ := List.mem_flatMap.1 hp
    obtain ⟨t, ht, rfl⟩ := List.mem_map.1 hp
    exact ⟨e.1, e.2, mem_allLemmaLines.1 he, rfl, t, ht, rfl⟩
  · rintro ⟨doc, line, hline, rfl, t, ht, rfl⟩
    exact ⟨_, List.mem_flatMap.2 ⟨(doc, line), mem_allLemmaLines.2 hline, List.mem_map_of_mem ht⟩,
      rfl, rfl⟩

theorem getElem?_lemmaTable :
    c.lemmaTable[token]? = some ls ↔ ∃ s, c.tokenLemmas[token]? = some s ∧ s.toList = ls := by
  rw [lemmaTable, Std.ExtTreeMap.getElem?_map, Option.map_eq_some_iff]

theorem lemmaTable_ne_nil (h : c.lemmaTable[token]? = some ls) : ls ≠ [] := by
  obtain ⟨s, hs, rfl⟩ := getElem?_lemmaTable.1 h
  intro hnil
  rw [Std.ExtTreeSet.toList_eq_nil_iff.1 hnil, tokenLemmas_eq_group] at hs
  exact getElem?_group_ne_empty (by simp) hs

/-- A token has the lemmas of its lines. -/
theorem mem_lemmaTable (h : c.lemmaTable[token]? = some ls) : l ∈ ls ↔ c.HasLemma token l := by
  obtain ⟨s, hs, rfl⟩ := getElem?_lemmaTable.1 h
  rw [← mem_tokenLemmas, hs, Std.ExtTreeSet.mem_toList]
  simp

/-- The tokens of the table are those with a lemma. -/
theorem exists_lemmaTable_iff : (∃ ls, c.lemmaTable[token]? = some ls) ↔ ∃ l, c.HasLemma token l := by
  constructor
  · rintro ⟨ls, h⟩
    obtain ⟨l, hl⟩ := List.exists_mem_of_ne_nil ls (lemmaTable_ne_nil h)
    exact ⟨l, (mem_lemmaTable h).1 hl⟩
  · rintro ⟨l, hl⟩
    obtain ⟨s, hs, -⟩ := mem_tokenLemmas.2 hl
    exact ⟨_, getElem?_lemmaTable.2 ⟨s, hs, rfl⟩⟩

theorem pairwise_lemmaTable (h : c.lemmaTable[token]? = some ls) : ls.Pairwise (· < ·) := by
  obtain ⟨s, -, rfl⟩ := getElem?_lemmaTable.1 h
  refine Std.ExtTreeSet.ordered_toList.imp fun {a b} hab => ?_
  exact compareOfLessAndEq_eq_lt.1 hab

/-- Each lemma of the table is a term of the inverted index. -/
theorem HasLemma.exists_mem_docs (h : c.HasLemma token l) : ∃ doc, doc ∈ c.invertedIndex.docs l := by
  obtain ⟨doc, line, hline, hl, -⟩ := h
  exact ⟨doc, mem_docs_invertedIndex.2 ⟨(doc, line), mem_allLemmaLines.2 hline, hl, rfl⟩⟩

/-! ## The lemma table of a corpus that was read -/

/-- Tokens and lemmas are words in lowercase, as they are words in the files. -/
theorem writable_lemmaTable (hc : OfTexts c) (h : c.lemmaTable[token]? = some ls) :
    LemmaTable.Writable token ls := by
  have hwords : ∀ {l}, c.HasLemma token l → IsLowerWord token ∧ IsLowerWord l := by
    rintro l ⟨doc, line, hline, rfl, t, ht, rfl⟩
    have hword := isWord_of_mem_allLemmaLines hc (mem_allLemmaLines (e := (doc, line)).2 hline)
    exact ⟨isLowerWord_lowerString (hword t (List.mem_cons_of_mem _ ht)),
      isLowerWord_lowerString (hword line.1 List.mem_cons_self)⟩
  obtain ⟨l, hl⟩ := exists_lemmaTable_iff.1 ⟨ls, h⟩
  refine ⟨lemmaTable_ne_nil h, List.forall_mem_cons.2 ⟨(hwords hl).1, fun w hw => ?_⟩⟩
  exact (hwords ((mem_lemmaTable h).1 hw)).2

/-- The lemma table of a corpus is read back from its text. -/
theorem ofText_text_lemmaTable (hc : OfTexts c) : LemmaTable.ofText c.lemmaTable.text = c.lemmaTable :=
  LemmaTable.ofText_text_eq_iff.2 fun _ _ => writable_lemmaTable hc

end DocSearch.Corpus
