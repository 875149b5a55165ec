/-
The inverted index of a corpus. A term lists the documents that have a lemma line for it in some
spelling, and the documents seen are those that are listed; the terms are words.
-/
import DocSearch.Corpus.Tables
import DocSearch.Proofs.Corpus.Reading
import DocSearch.Proofs.Postings.Reload
import DocSearch.Proofs.Text.Lowercase

namespace DocSearch.Corpus

open Text

/-! ## Grouping values by their keys -/

section Grouping

variable {β γ : Type} [Ord β] [Std.TransOrd β] {key : γ → String} {val : γ → β}

/-- Puts the value of every entry to the others of its key. -/
def group (key : γ → String) (val : γ → β) (es : List γ)
    (m : Std.ExtTreeMap String (Std.ExtTreeSet β)) : Std.ExtTreeMap String (Std.ExtTreeSet β) :=
  es.foldl (fun m e => m.alter (key e) fun s => some ((s.getD ∅).insert (val e))) m

theorem mem_getElem?_group [Std.LawfulEqOrd β] {w : String} {b : β} : ∀ {es : List γ}
    {m : Std.ExtTreeMap String (Std.ExtTreeSet β)}, (∃ s, (group key val es m)[w]? = some s ∧ b ∈ s) ↔
      (∃ s, m[w]? = some s ∧ b ∈ s) ∨ ∃ e ∈ es, key e = w ∧ val e = b
  | [], m => by simp [group]
  | e :: es, m => by
    rw [group, List.foldl_cons, ← group, mem_getElem?_group, Std.ExtTreeMap.getElem?_alter]
    simp only [Std.LawfulEqCmp.compare_eq_iff_eq, List.mem_cons, exists_eq_or_imp, ← or_assoc]
    refine or_congr_left ?_
    by_cases hk : key e = w
    · simp only [hk, if_true, true_and, Option.some.injEq, exists_eq_left',
        Std.ExtTreeSet.mem_insert, Std.LawfulEqCmp.compare_eq_iff_eq]
      rw [or_comm]
      refine or_congr_left ?_
      cases m[w]? with
      | none => simp
      | some s => simp
    · simp [hk]

theorem getElem?_group_ne_empty {w : String} : ∀ {es : List γ}
    {m : Std.ExtTreeMap String (Std.ExtTreeSet β)}, (∀ w : String, m[w]? ≠ some ∅) →
      (group key val es m)[w]? ≠ some ∅
  | [], _, h => h w
  | e :: es, m, h => by
    rw [group, List.foldl_cons, ← group]
    refine getElem?_group_ne_empty fun w => ?_
    rw [Std.ExtTreeMap.getElem?_alter]
    split
    · intro he
      have hmem : val e ∈ ((m[key e]?).getD ∅).insert (val e) := Std.ExtTreeSet.mem_insert_self
      rw [Option.some.inj he] at hmem
      exact Std.ExtTreeSet.not_mem_empty hmem
    · exact h w

end Grouping

/-! ## The inverted index -/

theorem lemmaDocs_eq_group (c : Corpus) :
    c.lemmaDocs = group (fun l => lowerString l.2.1) (fun l => l.1) c.allLemmaLines ∅ := rfl

theorem invertedIndex_eq_insertAll (c : Corpus) :
    c.invertedIndex = Postings.empty.insertAll c.lemmaDocs.toList := rfl

theorem find?_invertedIndex (c : Corpus) (w : String) : c.invertedIndex.find? w = c.lemmaDocs[w]? := by
  have hn : (c.lemmaDocs.toList.map (·.1)).Nodup := by
    rw [Std.ExtTreeMap.map_fst_toList_eq_keys]
    exact Std.ExtTreeMap.nodup_keys
  ext ds
  rw [invertedIndex_eq_insertAll, Postings.find?_insertAll_empty_iff hn,
    Std.ExtTreeMap.mem_toList_iff_getElem?_eq_some]

/-- A term lists the documents with a lemma line whose lemma is that term in lowercase. -/
theorem mem_docs_invertedIndex {c : Corpus} {w : String} {d : DocId} :
    d ∈ c.invertedIndex.docs w ↔ ∃ l ∈ c.allLemmaLines, lowerString l.2.1 = w ∧ l.1 = d := by
  rw [Postings.mem_docs, find?_invertedIndex, lemmaDocs_eq_group, mem_getElem?_group]
  simp

theorem find?_invertedIndex_ne_empty (c : Corpus) (w : String) : c.invertedIndex.find? w ≠ some ∅ := by
  rw [find?_invertedIndex, lemmaDocs_eq_group]
  exact getElem?_group_ne_empty fun w => by simp

/-- Every document seen is listed, and the other way round. -/
theorem mem_seen_invertedIndex {c : Corpus} {d : DocId} :
    d ∈ c.invertedIndex.seen ↔ c.invertedIndex.Lists d := by
  constructor
  · intro h
    rw [invertedIndex_eq_insertAll, Postings.mem_seen_insertAll_empty] at h
    obtain ⟨r, hr, hd⟩ := h
    refine ⟨r.1, r.2, ?_, hd⟩
    rw [find?_invertedIndex]
    exact Std.ExtTreeMap.mem_toList_iff_getElem?_eq_some.1 hr
  · exact Postings.seen_of_lists_insertAll_empty

/-- Each term of the index is a lemma of the corpus in lowercase. -/
theorem exists_of_find?_invertedIndex {c : Corpus} {w : String} {ds : DocSet}
    (h : c.invertedIndex.find? w = some ds) : ∃ l ∈ c.allLemmaLines, lowerString l.2.1 = w := by
  have hne : ds ≠ ∅ := fun he => find?_invertedIndex_ne_empty c w (he ▸ h)
  obtain ⟨d, hd⟩ := List.exists_mem_of_ne_nil _ (mt Std.ExtTreeSet.toList_eq_nil_iff.1 hne)
  rw [Std.ExtTreeSet.mem_toList] at hd
  obtain ⟨l, hl, hw, -⟩ := mem_docs_invertedIndex.1 (Postings.mem_docs.2 ⟨ds, h, hd⟩)
  exact ⟨l, hl, hw⟩

theorem find?_invertedIndex_of_mem {c : Corpus} {l : DocId × String × List String}
    (h : l ∈ c.allLemmaLines) : ∃ ds, c.invertedIndex.find? (lowerString l.2.1) = some ds := by
  obtain ⟨ds, hds, -⟩ := Postings.mem_docs.1 (mem_docs_invertedIndex.2 ⟨l, h, rfl, rfl⟩)
  exact ⟨ds, hds⟩

/-! ## The terms of the index of a corpus that was read -/

theorem isWord_of_mem_allLemmaLines {c : Corpus} (h : OfTexts c) {l : DocId × String × List String}
    (hl : l ∈ c.allLemmaLines) : ∀ w ∈ l.2.1 :: l.2.2, IsWord w.toList := by
  obtain ⟨⟨doc, d⟩, hd, hl⟩ := List.mem_flatMap.1 hl
  obtain ⟨line, hline, rfl⟩ := List.mem_map.1 hl
  have hdoc := h doc d (Std.ExtTreeMap.mem_toList_iff_getElem?_eq_some.1 hd)
  unfold lemmaLines at hline
  cases hls : d.lemmas with
  | none => rw [hls] at hline; cases hline
  | some ls =>
    rw [hls] at hline
    obtain ⟨s, rfl⟩ := hdoc.lemmas ls hls
    exact isWord_of_mem_readLemmas hline

/-- The terms are words, as lemmas are words and lowercasing keeps them so. -/
theorem isWord_of_find?_invertedIndex {c : Corpus} (h : OfTexts c) {w : String} {ds : DocSet}
    (hf : c.invertedIndex.find? w = some ds) : IsWord w.toList := by
  obtain ⟨l, hl, rfl⟩ := exists_of_find?_invertedIndex hf
  rw [lowerString, String.toList_ofList]
  exact isWord_lower.2 (isWord_of_mem_allLemmaLines h hl _ List.mem_cons_self)

end DocSearch.Corpus
