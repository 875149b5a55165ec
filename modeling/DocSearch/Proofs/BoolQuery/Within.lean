/-
Answers within the documents seen. A store that reading and storing have built lists no document
that it has not seen, so neither do its words, with or without a glued `not`. Every operator selects
from its operands, so what bounds the words of a query bounds every operand on the stack and in the
end the answer, whether the query is in infix form or not.
-/
import DocSearch.Proofs.BoolQuery.Steps
import DocSearch.Proofs.Postings.Reload

namespace DocSearch

/-! ## Stores -/

namespace Postings

/-- The stores that reading texts and storing lists build. -/
inductive Built : Postings → Prop
  | empty : Built .empty
  | ofText (s : String) : Built (ofText s)
  | insert {p : Postings} (term : String) (docs : DocSet) : Built p → Built (p.insert term docs)

/-- Whether a store has seen every document that it lists. -/
def SeesListed (p : Postings) : Prop := ∀ w ds, p.find? w = some ds → ∀ d ∈ ds, d ∈ p.seen

/-- A list that replaces another one is seen, and what the other one listed stays so. -/
theorem SeesListed.insert {p : Postings} (h : p.SeesListed) (term : String) (docs : DocSet) :
    (p.insert term docs).SeesListed := by
  intro w ds hf d hd
  rw [find?_insert] at hf
  rw [mem_seen_insert]
  split at hf
  · cases hf; exact .inr hd
  · exact .inl (h w ds hf d hd)

theorem Built.seesListed {p : Postings} (h : p.Built) : p.SeesListed := by
  induction h with
  | empty =>
    intro w ds hf
    rw [find?, Postings.empty, Std.ExtTreeMap.getElem?_empty] at hf
    cases hf
  | ofText s =>
    intro w ds hf d hd
    rw [ofText_eq_insertAll] at hf ⊢
    exact seen_of_lists_insertAll_empty ⟨w, ds, hf, hd⟩
  | insert term docs _ ih => exact ih.insert term docs

theorem SeesListed.seen_of_mem_docs {p : Postings} (h : p.SeesListed) {w : String} {d : DocId}
    (hd : d ∈ p.docs w) : d ∈ p.seen := by
  obtain ⟨ds, hf, hd⟩ := mem_docs.1 hd
  exact h w ds hf d hd

end Postings

/-! ## Queries -/

namespace BoolQuery

/-- Whether all operands of a stack lie within a set of documents. -/
def Within (u : DocSet) (xs : List DocSet) : Prop := ∀ x ∈ xs, ∀ d ∈ x, d ∈ u

variable {u : DocSet} {r : String → DocSet}

/-- An operator selects from its operands. -/
theorem mem_of_mem_apply {op : Operator} {a b : DocSet} {d : DocId} (h : d ∈ op.apply a b) :
    d ∈ a ∨ d ∈ b := by
  cases op with
  | and => exact .inl (Std.ExtTreeSet.mem_inter_iff.1 h).1
  | or => exact Std.ExtTreeSet.mem_union_iff.1 h
  | exclude => exact .inl (Std.ExtTreeSet.mem_diff_iff.1 h).1

theorem Within.reduce {op : Operator} {xs ys : List DocSet} (h : Within u xs)
    (hr : reduce op xs = .ok ys) : Within u ys := by
  unfold BoolQuery.reduce at hr
  split at hr
  · rename_i b a rest
    cases hr
    obtain ⟨hb, ha, hrest⟩ := by simpa only [Within, List.forall_mem_cons] using h
    exact List.forall_mem_cons.2 ⟨fun d hd => (mem_of_mem_apply hd).elim (ha d) (hb d), hrest⟩
  · cases hr

theorem Within.reduceAll : ∀ {os : List Operator} {xs ys : List DocSet}, Within u xs →
    reduceAll xs os = .ok ys → Within u ys
  | [], _, _, h, hr => by cases hr; exact h
  | op :: os, xs, ys, h, hr => by
    unfold BoolQuery.reduceAll at hr
    obtain ⟨zs, hz, hr⟩ := bind_ok hr
    exact (h.reduce hz).reduceAll hr

/-- Every token keeps the operands within a set that bounds the words. -/
theorem Within.step (hword : ∀ w, ∀ d ∈ r w, d ∈ u) {s s' : State} {t : Token}
    (h : Within u s.operands) (hst : Steps r s t s') : Within u s'.operands := by
  cases hst with
  | opening => exact h
  | closing hp hr => exact h.reduceAll hr
  | andNot => exact h
  | operator hn hp hr => exact h.reduceAll hr
  | word w => exact List.forall_mem_cons.2 ⟨hword w, h⟩

/-- What bounds the words bounds the operands that are left, whatever the query. -/
theorem within_leftOperands (hword : ∀ w, ∀ d ∈ r w, d ∈ u) {ts : List Token} {xs : List DocSet}
    (h : leftOperands r ts = .ok xs) : Within u xs := by
  obtain ⟨s, os, hrun, -, hr⟩ := leftOperands_ok h
  have hs : Within u s.operands :=
    run_induction (P := fun _ s => Within u s.operands) (fun _ hx => absurd hx List.not_mem_nil)
      (fun _ _ _ _ hs _ hst => hs.step hword hst) hrun
  exact hs.reduceAll hr

theorem mem_seen_of_mem_resolve {p : Postings} (h : p.SeesListed) {w : String} {d : DocId}
    (hd : d ∈ resolve p w) : d ∈ p.seen := by
  unfold resolve at hd
  split at hd
  · exact (Std.ExtTreeSet.mem_diff_iff.1 hd).1
  · exact h.seen_of_mem_docs hd

/-- In every store that reading and storing have built, the documents of every stored list are among
those seen, and so are those of every answer to a query of any form. -/
theorem built_within_seen {p : Postings} (h : p.Built) :
    (∀ w ds, p.find? w = some ds → ∀ d ∈ ds, d ∈ p.seen) ∧
      ∀ query s, evaluate p query = .ok s → ∀ d ∈ s, d ∈ p.seen := by
  refine ⟨h.seesListed, fun query s hs => ?_⟩
  have hleft := within_leftOperands (fun _ _ => mem_seen_of_mem_resolve h.seesListed)
    (leftOperands_of_ok hs)
  exact hleft s List.mem_cons_self

/-- A store with a list that has been replaced. -/
def replacedPostings : Postings := (Postings.ofText "cat:1,2,3\ndog:2,4\n").insert "cat" (.ofList [5])

/-- The query has an answer though its `not` is misplaced; the answer holds a document that no list
has any more. -/
theorem built_within_seen_replaced :
    (∀ w ds, replacedPostings.find? w = some ds → ∀ d ∈ ds, d ∈ replacedPostings.seen) ∧
      ∃ s, s.toList = [1, 3] ∧ evaluate replacedPostings "notcat dog not" = .ok s ∧
        ∀ d ∈ s, d ∈ replacedPostings.seen :=
  have hbuilt : replacedPostings.Built := .insert _ _ (.ofText _)
  have hs : evaluate replacedPostings "notcat dog not" = .ok (.ofList [1, 3]) :=
    DocSet.eq_ok_of_toList (by decide +kernel)
  ⟨(built_within_seen hbuilt).1, _, by decide +kernel, hs, (built_within_seen hbuilt).2 _ _ hs⟩

end BoolQuery

end DocSearch
