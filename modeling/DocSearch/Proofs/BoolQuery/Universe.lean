/-
The documents that a glued `not` answers with. They are taken from all documents that were ever
stored, also those of lists that have been replaced since, and so may be documents that no term
lists any more. A store that is written and read back has forgotten those: its answers are the same
exactly if there were none.
-/
import DocSearch.Proofs.BoolQuery.Infix
import DocSearch.Proofs.Postings.Reload

namespace DocSearch.BoolQuery

open Postings

/-- The store of a text to which records have been added. -/
def ofHistory (s : String) (rs : List (String × DocSet)) : Postings := (Postings.ofText s).insertAll rs

/-! ## All documents ever stored -/

theorem ofHistory_eq_insertAll (s : String) (rs : List (String × DocSet)) :
    ofHistory s rs = Postings.empty.insertAll (records s ++ rs) := by
  rw [ofHistory, ofText_eq_insertAll, insertAll, insertAll, insertAll, List.foldl_append]

theorem mem_seen_ofHistory {s : String} {rs : List (String × DocSet)} {d : DocId} :
    d ∈ (ofHistory s rs).seen ↔ ∃ r ∈ records s ++ rs, d ∈ r.2 := by
  rw [ofHistory_eq_insertAll, mem_seen_insertAll_empty]

theorem seen_of_lists_ofHistory {s : String} {rs : List (String × DocSet)} {d : DocId}
    (h : (ofHistory s rs).Lists d) : d ∈ (ofHistory s rs).seen := by
  rw [ofHistory_eq_insertAll] at h ⊢
  exact seen_of_lists_insertAll_empty h

/-- Where no term has been stored twice, no document is seen without being listed. -/
theorem lists_of_seen_ofHistory {s : String} {rs : List (String × DocSet)} {d : DocId}
    (hn : ((records s ++ rs).map (·.1)).Nodup) (h : d ∈ (ofHistory s rs).seen) :
    (ofHistory s rs).Lists d := by
  obtain ⟨⟨w, ds⟩, hr, hd⟩ := mem_seen_ofHistory.1 h
  rw [ofHistory_eq_insertAll]
  exact ⟨w, ds, (find?_insertAll_empty_iff hn).2 hr, hd⟩

theorem writes_ofHistory {s : String} {rs : List (String × DocSet)}
    (h : ∀ r ∈ rs, Writable r.1) : (ofHistory s rs).Writes := by
  intro w ds hf
  rw [ofHistory_eq_insertAll] at hf
  rcases List.mem_append.1 (mem_of_find?_insertAll_empty hf) with hr | hr
  · exact (writable_of_mem_records hr).1
  · exact h _ hr

/-! ## Words and their answers -/

theorem resolve_not {w : String} (hw : w ≠ "") (p : Postings) :
    resolve p ("not" ++ w) = p.seen \ p.docs w := by
  unfold resolve
  rw [(negated?_eq_some_iff _ w).2 ⟨hw, rfl⟩]

theorem evaluate_word {query w : String} (h : tokens query = [.word w]) (p : Postings) :
    evaluate p query = .ok (resolve p w) := by
  unfold evaluate
  rw [h]; rfl

/-- Reading a written store back takes the documents that no term lists from every word. -/
theorem mem_resolve_reload {p : Postings} (h : p.Writes) (hp : ∀ d, p.Lists d → d ∈ p.seen)
    (w : String) (d : DocId) :
    d ∈ resolve (Postings.ofText p.text) w ↔ d ∈ resolve p w ∧ p.Lists d := by
  unfold resolve
  cases negated? w with
  | some x =>
    simp only [Std.ExtTreeSet.mem_diff_iff, h.docs_reload, h.mem_seen_reload]
    constructor
    · rintro ⟨hl, hx⟩; exact ⟨⟨hp d hl, hx⟩, hl⟩
    · rintro ⟨⟨-, hx⟩, hl⟩; exact ⟨hl, hx⟩
  | none =>
    simp only [h.docs_reload]
    refine (and_iff_left_of_imp fun hd => ?_).symm
    obtain ⟨ds, hf, hd⟩ := mem_docs.1 hd
    exact ⟨w, ds, hf, hd⟩

/-- A store keeps its answers through writing and reading back exactly if some term lists every
document that it has seen: any word with a glued `not` tells whether there is another one. -/
theorem evaluate_reload_iff {p : Postings} (h : p.Writes) (hp : ∀ d, p.Lists d → d ∈ p.seen) :
    (∀ query, evaluate (Postings.ofText p.text) query = evaluate p query) ↔
      ∀ d, d ∈ p.seen → p.Lists d := by
  constructor
  · -- a document is answered to a word or to the word with a glued `not`, here to `a` or to `nota`
    intro heq d hd
    by_cases ha : d ∈ p.docs "a"
    · obtain ⟨ds, hf, hd⟩ := mem_docs.1 ha
      exact ⟨"a", ds, hf, hd⟩
    · have hword : tokens ("not" ++ "a") = [.word ("not" ++ "a")] := by decide +kernel
      have hquery := heq ("not" ++ "a")
      rw [evaluate_word hword, evaluate_word hword, Except.ok.injEq] at hquery
      have hmem : d ∈ resolve p ("not" ++ "a") := by
        rw [resolve_not (by decide), Std.ExtTreeSet.mem_diff_iff]
        exact ⟨hd, ha⟩
      rw [← hquery] at hmem
      exact ((mem_resolve_reload h hp ("not" ++ "a") d).1 hmem).2
  · intro hall query
    have hresolve : resolve (Postings.ofText p.text) = resolve p := by
      funext w
      apply Std.ExtTreeSet.ext_mem
      intro d
      rw [mem_resolve_reload h hp]
      refine and_iff_left_of_imp fun hd => ?_
      rcases (mem_resolve p w d).1 hd with ⟨x, -, -, hseen, -⟩ | ⟨-, hd⟩
      · exact hall d hseen
      · obtain ⟨ds, hf, hd⟩ := mem_docs.1 hd
        exact ⟨w, ds, hf, hd⟩
    unfold evaluate
    rw [hresolve]

/-- The documents seen are those ever stored, with the lists that were replaced: they contain what
the terms list now, and nothing else where no term was stored twice. A glued `not` answers with the
documents ever stored that its term does not list. Written and read back, a store whose terms can
stand in a line leaves out of every word what no term lists any more, and gives every query the same
answer exactly if there is no such document. -/
theorem seen_is_ever_stored (s : String) (rs : List (String × DocSet)) :
    (∀ d, d ∈ (ofHistory s rs).seen ↔ ∃ r ∈ records s ++ rs, d ∈ r.2) ∧
    (∀ d, (ofHistory s rs).Lists d → d ∈ (ofHistory s rs).seen) ∧
    (((records s ++ rs).map (·.1)).Nodup → ∀ d, d ∈ (ofHistory s rs).seen → (ofHistory s rs).Lists d) ∧
    (∀ query w, w ≠ "" → tokens query = [.word ("not" ++ w)] →
      ∃ a, evaluate (ofHistory s rs) query = .ok a ∧
        ∀ d, d ∈ a ↔ (∃ r ∈ records s ++ rs, d ∈ r.2) ∧ d ∉ (ofHistory s rs).docs w) ∧
    ((∀ r ∈ rs, Writable r.1) →
      (∀ w d, d ∈ resolve (Postings.ofText (ofHistory s rs).text) w ↔
        d ∈ resolve (ofHistory s rs) w ∧ (ofHistory s rs).Lists d) ∧
      ((∀ query, evaluate (Postings.ofText (ofHistory s rs).text) query =
          evaluate (ofHistory s rs) query) ↔
        ∀ d, d ∈ (ofHistory s rs).seen → (ofHistory s rs).Lists d)) := by
  have hlists : ∀ d, (ofHistory s rs).Lists d → d ∈ (ofHistory s rs).seen := fun _ h =>
    seen_of_lists_ofHistory h
  refine ⟨fun d => mem_seen_ofHistory, hlists, fun hn d hd => lists_of_seen_ofHistory hn hd,
    fun query w hw hq => ?_, fun hrs => ?_⟩
  · refine ⟨_, evaluate_word hq _, fun d => ?_⟩
    rw [resolve_not hw, Std.ExtTreeSet.mem_diff_iff, mem_seen_ofHistory]
  · have hwrites := writes_ofHistory (s := s) hrs
    exact ⟨mem_resolve_reload hwrites hlists, evaluate_reload_iff hwrites hlists⟩

/-- A document of a list that has been replaced is still answered, and no longer after the store has
been written and read back. -/
theorem replaced_document_answered :
    (Postings.ofText "cat:1,2\ncat:3\n").seen.toList = [1, 2, 3] ∧
      ¬ (Postings.ofText "cat:1,2\ncat:3\n").Lists 1 ∧
      (evaluate (Postings.ofText "cat:1,2\ncat:3\n") "notcat").toOption.map (·.toList) = some [1, 2] ∧
      (evaluate (Postings.ofText (Postings.ofText "cat:1,2\ncat:3\n").text) "notcat").toOption.map
        (·.toList) = some [] := by
  have hlists : (Postings.ofText "cat:1,2\ncat:3\n").toList.map (fun r => (r.1, r.2.toList)) =
      [("cat", [3])] := by decide +kernel
  refine ⟨by decide +kernel, ?_, by decide +kernel, by decide +kernel⟩
  rintro ⟨w, ds, hf, hd⟩
  have hr := List.mem_map_of_mem (f := fun r : String × DocSet => (r.1, r.2.toList)) (mem_toList.2 hf)
  rw [hlists, List.mem_singleton] at hr
  have hd := Std.ExtTreeSet.mem_toList.2 hd
  rw [(Prod.mk.inj hr).2] at hd
  cases hd with
  | tail _ h => cases h

end DocSearch.BoolQuery
