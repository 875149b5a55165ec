/-
Parentheses around a query, in infix form or not. A query that is evaluated between parentheses
works above the operands and pending operators of what stands before them: as long as its own
evaluation goes on it does not touch those, and the closing parenthesis does to it what the end of a
query does. So a query with an answer, put between parentheses, is worth a word with the same
documents wherever it stands, and also where the query around it fails.
-/
import DocSearch.Postings.Record
import DocSearch.Proofs.BoolQuery.Frame
import DocSearch.Proofs.BoolQuery.Steps
import DocSearch.Proofs.BoolQuery.Tokens
import DocSearch.Proofs.DocSet

namespace DocSearch.BoolQuery

/-- The state of an evaluation inside a parenthesis that was opened in the state `outer`. -/
def State.inside (s outer : State) : State :=
  ⟨s.operands ++ outer.operands, s.pending ++ .paren :: outer.pending, s.afterAnd⟩

variable {r : String → DocSet}

/-! ## Operators above other operands -/

theorem reduce_append {op : Operator} {xs ys : List DocSet} (h : reduce op xs = .ok ys)
    (ops : List DocSet) : reduce op (xs ++ ops) = .ok (ys ++ ops) := by
  unfold reduce at h
  split at h
  · cases h; rfl
  · cases h

section Loops

variable {ops : List DocSet} {pend : List Pending}

/-- Closing a parenthesis finds one that is open inside before the one that is open outside. -/
theorem closeParen_append : ∀ {ps qs : List Pending} {xs ys : List DocSet},
    closeParen xs ps = .ok (ys, qs) → closeParen (xs ++ ops) (ps ++ pend) = .ok (ys ++ ops, qs ++ pend)
  | [], _, _, _, h => by cases h
  | .paren :: ps, _, _, _, h => by cases h; rfl
  | .operator op :: ps, qs, xs, ys, h => by
    unfold closeParen at h
    obtain ⟨zs, hz, h⟩ := bind_ok h
    rw [List.cons_append, closeParen, reduce_append hz]
    exact closeParen_append h

/-- An operator that stops at the bottom of the stack stops at an open parenthesis. -/
theorem applyTighter_append {op : Operator} : ∀ {ps qs : List Pending} {xs ys : List DocSet},
    applyTighter op xs ps = .ok (ys, qs) →
      applyTighter op (xs ++ ops) (ps ++ .paren :: pend) = .ok (ys ++ ops, qs ++ .paren :: pend)
  | [], _, _, _, h => by cases h; rfl
  | .paren :: ps, _, _, _, h => by cases h; rfl
  | .operator top :: ps, qs, xs, ys, h => by
    unfold applyTighter at h
    rw [List.cons_append, applyTighter]
    split at h
    · rename_i hlt
      cases h
      rw [if_pos hlt]
      rfl
    · rename_i hlt
      obtain ⟨zs, hz, h⟩ := bind_ok h
      rw [if_neg hlt, reduce_append hz]
      exact applyTighter_append h

/-- A closing parenthesis applies what the end of a query applies, down to the opening one. -/
theorem closeParen_of_applyAll : ∀ {ps : List Pending} {xs ys : List DocSet},
    applyAll xs ps = .ok ys → closeParen (xs ++ ops) (ps ++ .paren :: pend) = .ok (ys ++ ops, pend)
  | [], _, _, h => by cases h; rfl
  | .paren :: ps, _, _, h => by cases h
  | .operator op :: ps, xs, ys, h => by
    unfold applyAll at h
    obtain ⟨zs, hz, h⟩ := bind_ok h
    rw [List.cons_append, closeParen, reduce_append hz]
    exact closeParen_of_applyAll h

end Loops

/-! ## Runs inside a parenthesis -/

/-- A token that can be taken does inside a parenthesis what it does alone. -/
theorem step_inside {s s' : State} {t : Token} (ha : AfterAnd s) (h : step r s t = .ok s')
    (outer : State) : step r (s.inside outer) t = .ok (s'.inside outer) := by
  cases t with
  | opening => cases h; rfl
  | word w => cases h; rfl
  | closing =>
    obtain ⟨⟨xs, rest⟩, hc, h⟩ := bind_ok h
    cases h
    exact step_closing r _ (closeParen_append hc)
  | operator op =>
    simp only [step] at h
    split at h
    · -- the `and` that the `not` replaces is on top, so it was pushed inside
      rename_i hn
      cases h
      obtain ⟨rfl, hand⟩ := hn
      obtain ⟨rest, hp⟩ := ha hand
      unfold State.inside
      rw [hand, hp]
      exact step_exclude_afterAnd r _ _ _
    · rename_i hn
      obtain ⟨⟨xs, rest⟩, hc, h⟩ := bind_ok h
      cases h
      exact step_operator r hn (applyTighter_append hc)

theorem run_inside (outer : State) : ∀ {ts : List Token} {s s' : State}, AfterAnd s →
    ts.foldlM (step r) s = .ok s' → ts.foldlM (step r) (s.inside outer) = .ok (s'.inside outer)
  | [], _, _, _, h => by cases h; rfl
  | t :: ts, s, s', ha, h => by
    rw [List.foldlM_cons] at h ⊢
    obtain ⟨s₁, h₁, h⟩ := bind_ok h
    rw [step_inside ha h₁]
    exact run_inside outer (steps_of_ok h₁).afterAnd h

/-- A query with an answer, between parentheses, does to any state what a word with that answer does. -/
theorem run_group {e : List Token} {s : DocSet} {w : String} (he : evaluateTokens r e = .ok s)
    (hw : r w = s) (outer : State) :
    (Token.opening :: (e ++ [.closing])).foldlM (step r) outer = step r outer (.word w) := by
  have hleft := leftOperands_of_ok he
  unfold leftOperands at hleft
  obtain ⟨inner, hrun, hend⟩ := bind_ok hleft
  have hinner : e.foldlM (step r) (State.inside ⟨[], [], false⟩ outer) = .ok (inner.inside outer) :=
    run_inside outer (fun h => by cases h) hrun
  have hclose : step r (inner.inside outer) .closing = .ok ⟨s :: outer.operands, outer.pending, false⟩ :=
    step_closing r _ (closeParen_of_applyAll hend)
  rw [List.foldlM_cons]
  show (e ++ [Token.closing]).foldlM (step r) (State.inside ⟨[], [], false⟩ outer) = _
  rw [List.foldlM_append, hinner]
  show [Token.closing].foldlM (step r) (inner.inside outer) = _
  rw [List.foldlM_cons, hclose, step, hw]
  rfl

/-- Tokens that do the same to every state can stand for each other. -/
theorem evaluateTokens_congr {us vs : List Token}
    (h : ∀ s, us.foldlM (step r) s = vs.foldlM (step r) s) (before after : List Token) :
    evaluateTokens r (before ++ us ++ after) = evaluateTokens r (before ++ vs ++ after) := by
  unfold evaluateTokens
  simp only [List.foldlM_append, h]

/-- Parentheses are compositional: in any query a query with an answer, between parentheses, can be
replaced by a word with the same documents. The outcome is the same, be it an answer or an error. -/
theorem evaluate_group (p : Postings) {e : List Token} {s : DocSet} {w : String}
    (he : evaluateTokens (resolve p) e = .ok s) (hw : resolve p w = s) :
    (∀ before after : List Token,
      evaluateTokens (resolve p) (before ++ .opening :: (e ++ .closing :: after)) =
        evaluateTokens (resolve p) (before ++ .word w :: after)) ∧
    ∀ x y inner word : String, tokens inner = e → tokens word = [.word w] →
      evaluate p (x ++ "(" ++ inner ++ ")" ++ y) = evaluate p (x ++ " " ++ word ++ " " ++ y) := by
  have hgroup : ∀ outer, (Token.opening :: (e ++ [.closing])).foldlM (step (resolve p)) outer =
      [Token.word w].foldlM (step (resolve p)) outer := by
    intro outer
    rw [run_group he hw, List.foldlM_cons]
    exact (bind_pure _).symm
  refine ⟨fun before after => by simpa using evaluateTokens_congr hgroup before after, ?_⟩
  intro x y inner word hinner hword
  have htexts := evaluateTokens_congr hgroup (tokens x) (tokens y)
  unfold evaluate
  rw [tokens_append_closing, tokens_append_opening, tokens_append_space, tokens_append_space, hinner,
    hword]
  simpa using htexts

/-- Postings in which a query that is not in infix form has the documents of a word. -/
def foxPostings : Postings := Postings.ofText "cat:1,2,3\ndog:2,4\nfox:1,3\n"

theorem evaluate_group_fox :
    evaluateTokens (resolve foxPostings) (tokens "NOT cat dog") = .ok (resolve foxPostings "fox") ∧
      evaluate foxPostings ("" ++ "(" ++ "NOT cat dog" ++ ")" ++ "dog (cat and) or") =
        evaluate foxPostings ("" ++ " " ++ "Fox" ++ " " ++ "dog (cat and) or") ∧
      evaluate foxPostings ("dog or " ++ "(" ++ "NOT cat dog" ++ ")" ++ " and (cat") =
        evaluate foxPostings ("dog or " ++ " " ++ "Fox" ++ " " ++ " and (cat") :=
  have hfox : evaluateTokens (resolve foxPostings) (tokens "NOT cat dog") =
      .ok (resolve foxPostings "fox") := DocSet.eq_ok_of_toList (by decide +kernel)
  have hword : tokens "Fox" = [.word "fox"] := by decide +kernel
  ⟨hfox, (evaluate_group foxPostings hfox rfl).2 _ _ _ _ rfl hword,
    (evaluate_group foxPostings hfox rfl).2 _ _ _ _ rfl hword⟩

end DocSearch.BoolQuery
