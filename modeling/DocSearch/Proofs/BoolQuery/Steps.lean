/-
What an evaluation that goes on has done: each loop over the pending stack has taken a run of
operators off its top and applied them one after the other, and each token has changed the state in
one of five ways. Facts about arbitrary queries, in infix form or not, are read off these cases.
-/
import DocSearch.BoolQuery.Evaluate

namespace DocSearch.BoolQuery

/-- A computation in two stages that succeeds has succeeded in both. -/
theorem bind_ok {β γ : Type} {x : Except QueryError β} {f : β → Except QueryError γ} {c : γ}
    (h : (do f (← x)) = .ok c) : ∃ b, x = .ok b ∧ f b = .ok c := by
  rcases x with e | b
  · cases h
  · exact ⟨b, rfl, h⟩

/-! ## Runs of operators -/

/-- Applies operators one after the other, each to the two topmost operands. -/
def reduceAll (xs : List DocSet) : List Operator → Except QueryError (List DocSet)
  | [] => .ok xs
  | op :: os => do reduceAll (← reduce op xs) os

theorem reduceAll_cons {op : Operator} {os : List Operator} {xs ys zs : List DocSet}
    (h : reduce op xs = .ok ys) (hs : reduceAll ys os = .ok zs) :
    reduceAll xs (op :: os) = .ok zs := by
  unfold reduceAll
  rw [h]; exact hs

/-- A closing parenthesis has applied the operators above the opening one. -/
theorem closeParen_ok : ∀ {pend rest : List Pending} {xs ys : List DocSet},
    closeParen xs pend = .ok (ys, rest) →
    ∃ os : List Operator, pend = os.map .operator ++ .paren :: rest ∧ reduceAll xs os = .ok ys
  | [], _, _, _, h => by cases h
  | .paren :: pend, _, _, _, h => by cases h; exact ⟨[], rfl, rfl⟩
  | .operator op :: pend, rest, xs, ys, h => by
    unfold closeParen at h
    obtain ⟨zs, hz, h⟩ := bind_ok h
    obtain ⟨os, hp, hr⟩ := closeParen_ok h
    exact ⟨op :: os, by rw [hp]; rfl, reduceAll_cons hz hr⟩

/-- An operator has applied those above the first parenthesis or weaker operator. -/
theorem applyTighter_ok {op : Operator} : ∀ {pend rest : List Pending} {xs ys : List DocSet},
    applyTighter op xs pend = .ok (ys, rest) →
    ∃ os : List Operator, pend = os.map .operator ++ rest ∧ reduceAll xs os = .ok ys
  | [], _, _, _, h => by cases h; exact ⟨[], rfl, rfl⟩
  | .paren :: pend, _, _, _, h => by cases h; exact ⟨[], rfl, rfl⟩
  | .operator top :: pend, rest, xs, ys, h => by
    unfold applyTighter at h
    split at h
    · cases h; exact ⟨[], rfl, rfl⟩
    · obtain ⟨zs, hz, h⟩ := bind_ok h
      obtain ⟨os, hp, hr⟩ := applyTighter_ok h
      exact ⟨top :: os, by rw [hp]; rfl, reduceAll_cons hz hr⟩

/-- The end of a query has applied all that was pending, and no parenthesis was. -/
theorem applyAll_ok : ∀ {pend : List Pending} {xs ys : List DocSet}, applyAll xs pend = .ok ys →
    ∃ os : List Operator, pend = os.map .operator ∧ reduceAll xs os = .ok ys
  | [], _, _, h => by cases h; exact ⟨[], rfl, rfl⟩
  | .paren :: pend, _, _, h => by cases h
  | .operator op :: pend, xs, ys, h => by
    unfold applyAll at h
    obtain ⟨zs, hz, h⟩ := bind_ok h
    obtain ⟨os, hp, hr⟩ := applyAll_ok h
    exact ⟨op :: os, by rw [hp]; rfl, reduceAll_cons hz hr⟩

/-! ## Tokens -/

/-- The ways in which a token changes the stacks. -/
inductive Steps (r : String → DocSet) : State → Token → State → Prop
  | opening (s : State) : Steps r s .opening ⟨s.operands, .paren :: s.pending, false⟩
  | closing {s : State} {os : List Operator} {xs : List DocSet} {rest : List Pending}
      (hp : s.pending = os.map .operator ++ .paren :: rest)
      (hr : reduceAll s.operands os = .ok xs) : Steps r s .closing ⟨xs, rest, false⟩
  | andNot {s : State} (h : s.afterAnd = true) :
      Steps r s (.operator .exclude) ⟨s.operands, .operator .exclude :: s.pending.tail, false⟩
  | operator {s : State} {op : Operator} {os : List Operator} {xs : List DocSet}
      {rest : List Pending} (hn : ¬ (op = .exclude ∧ s.afterAnd = true))
      (hp : s.pending = os.map .operator ++ rest)
      (hr : reduceAll s.operands os = .ok xs) :
      Steps r s (.operator op) ⟨xs, .operator op :: rest, op = .and⟩
  | word (s : State) (w : String) : Steps r s (.word w) ⟨r w :: s.operands, s.pending, false⟩

theorem steps_of_ok {r : String → DocSet} {s s' : State} {t : Token} (h : step r s t = .ok s') :
    Steps r s t s' := by
  cases t with
  | opening => cases h; exact .opening s
  | closing =>
    obtain ⟨⟨xs, rest⟩, hc, h⟩ := bind_ok h
    cases h
    obtain ⟨os, hp, hr⟩ := closeParen_ok hc
    exact .closing hp hr
  | operator op =>
    simp only [step] at h
    split at h
    · rename_i hn
      cases h
      obtain ⟨rfl, ha⟩ := hn
      exact .andNot ha
    · rename_i hn
      obtain ⟨⟨xs, rest⟩, hc, h⟩ := bind_ok h
      cases h
      obtain ⟨os, hp, hr⟩ := applyTighter_ok hc
      exact .operator hn hp hr
  | word w => cases h; exact .word s w

/-- The state before a token that fits an `and` has the `and` on top. -/
def AfterAnd (s : State) : Prop := s.afterAnd = true → ∃ rest, s.pending = .operator .and :: rest

theorem Steps.afterAnd {r : String → DocSet} {s s' : State} {t : Token} (h : Steps r s t s') :
    AfterAnd s' := by
  cases h with
  | opening => intro h; cases h
  | closing => intro h; cases h
  | andNot => intro h; cases h
  | operator => intro h; exact ⟨_, by rw [of_decide_eq_true h]⟩
  | word => intro h; cases h

section Run

variable {r : String → DocSet} {P : List Token → State → Prop}

theorem run_induction_from
    (hP : ∀ ts s t s', P ts s → AfterAnd s → Steps r s t s' → P (ts ++ [t]) s') :
    ∀ {ts done : List Token} {s s' : State}, P done s → AfterAnd s →
      ts.foldlM (step r) s = .ok s' → P (done ++ ts) s'
  | [], done, s, s', h, _, hrun => by cases hrun; simpa using h
  | t :: ts, done, s, s', h, ha, hrun => by
    rw [List.foldlM_cons] at hrun
    obtain ⟨s₁, h₁, hrun⟩ := bind_ok hrun
    have hs := steps_of_ok h₁
    simpa using run_induction_from hP (hP done s t s₁ h ha hs) hs.afterAnd hrun

/-- A property of the tokens taken and the state holds after every run from the start if it holds at
the start and every token keeps it. -/
theorem run_induction (h0 : P [] ⟨[], [], false⟩)
    (hP : ∀ ts s t s', P ts s → AfterAnd s → Steps r s t s' → P (ts ++ [t]) s')
    {ts : List Token} {s : State} (hrun : ts.foldlM (step r) ⟨[], [], false⟩ = .ok s) : P ts s :=
  run_induction_from hP h0 (fun h => by cases h) hrun

end Run

/-! ## Whole queries -/

/-- The operands that are left when every token has been taken and all that was pending applied. -/
def leftOperands (r : String → DocSet) (ts : List Token) : Except QueryError (List DocSet) := do
  let s ← ts.foldlM (step r) ⟨[], [], false⟩
  applyAll s.operands s.pending

theorem evaluateTokens_eq (r : String → DocSet) (ts : List Token) :
    evaluateTokens r ts = (do answer (← leftOperands r ts)) := by
  unfold evaluateTokens leftOperands
  rw [bind_assoc]

/-- What an evaluation has done that came to its end. -/
theorem leftOperands_ok {r : String → DocSet} {ts : List Token} {xs : List DocSet}
    (h : leftOperands r ts = .ok xs) : ∃ (s : State) (os : List Operator),
      ts.foldlM (step r) ⟨[], [], false⟩ = .ok s ∧ s.pending = os.map .operator ∧
        reduceAll s.operands os = .ok xs := by
  unfold leftOperands at h
  obtain ⟨s, hs, h⟩ := bind_ok h
  obtain ⟨os, hp, hr⟩ := applyAll_ok h
  exact ⟨s, os, hs, hp, hr⟩

/-- An evaluation with an answer came to its end with that one operand left. -/
theorem leftOperands_of_ok {r : String → DocSet} {ts : List Token} {d : DocSet}
    (h : evaluateTokens r ts = .ok d) : leftOperands r ts = .ok [d] := by
  rw [evaluateTokens_eq] at h
  obtain ⟨xs, hx, h⟩ := bind_ok h
  unfold answer at h
  split at h
  · cases h
  · cases h; exact hx
  · cases h

end DocSearch.BoolQuery
