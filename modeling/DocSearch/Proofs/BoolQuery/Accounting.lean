/-
Operands and operators of a query, in infix form or not. Every word brings an operand and every
operator takes one away, the two of an `and not` together, so the operands that are left are known
from the counts. From the counts and the parentheses it follows which queries can be answered and
which errors the others can have.
-/
import DocSearch.Proofs.BoolQuery.Placement

namespace DocSearch.BoolQuery

/-! ## Counts -/

/-- The number of words of a query. -/
def wordCount (ts : List Token) : Nat := ts.countP fun | .word _ => true | _ => false

/-- The number of operators of a query, where an `and` and the `not` right behind it are one. -/
def operatorCount : List Token → Nat
  | [] => 0
  | .operator .and :: .operator .exclude :: ts => operatorCount ts + 1
  | .operator _ :: ts => operatorCount ts + 1
  | _ :: ts => operatorCount ts

/-- Whether a token behind the given ones is the `not` of an `and not`. -/
def Completes (ts : List Token) (t : Token) : Prop :=
  ts.getLast? = some (.operator .and) ∧ t = .operator .exclude

instance (ts : List Token) (t : Token) : Decidable (Completes ts t) := inferInstanceAs (Decidable (_ ∧ _))

theorem wordCount_append (ts us : List Token) : wordCount (ts ++ us) = wordCount ts + wordCount us :=
  List.countP_append

theorem completes_cons {a t : Token} {ts : List Token} (ha : a ≠ .operator .and) :
    Completes (a :: ts) t ↔ Completes ts t := by
  unfold Completes
  cases ts <;> simp [ha]

theorem completes_cons_cons {a b t : Token} {ts : List Token} :
    Completes (a :: b :: ts) t ↔ Completes (b :: ts) t := by
  unfold Completes
  simp

/-- A token at the end counts as it does alone, unless it completes an `and not`. -/
theorem operatorCount_concat (ts : List Token) (t : Token) :
    operatorCount (ts ++ [t]) = operatorCount ts + if Completes ts t then 0 else operatorCount [t] := by
  fun_induction operatorCount ts with
  | case1 => simp [Completes]
  | case2 ts ih =>
    simp only [List.cons_append, operatorCount, completes_cons_cons,
      completes_cons (show Token.operator .exclude ≠ .operator .and by simp), ih]
    omega
  | case3 op ts h ih =>
    cases ts with
    | nil =>
      cases t with
      | operator op' => cases op <;> cases op' <;> rfl
      | opening | closing | word => simp [Completes, operatorCount]
    | cons u ts =>
      have hne : ∀ us, u :: (ts ++ [t]) = .operator .exclude :: us → op = .and → False := by
        rintro us ⟨⟩ hop
        exact h ts rfl hop
      simp only [List.cons_append, completes_cons_cons] at ih ⊢
      rw [operatorCount, ih]
      · omega
      · exact hne
  | case4 u ts h h' ih =>
    have hu : u ≠ .operator .and := h' .and
    simp only [List.cons_append, completes_cons hu]
    rw [operatorCount, ih]
    · exact fun us ha => absurd ha hu
    · exact h'

/-! ## Operands that are left -/

theorem reduce_ok {op : Operator} {xs ys : List DocSet} (h : reduce op xs = .ok ys) :
    ys ≠ [] ∧ xs.length = ys.length + 1 := by
  unfold reduce at h
  split at h
  · cases h; exact ⟨List.cons_ne_nil _ _, rfl⟩
  · cases h

/-- Each operator takes one operand away, and never the last one. -/
theorem reduceAll_ok : ∀ {os : List Operator} {xs ys : List DocSet}, reduceAll xs os = .ok ys →
    xs.length = ys.length + os.length ∧ (ys = [] → xs = [])
  | [], _, _, h => by cases h; exact ⟨rfl, id⟩
  | op :: os, xs, ys, h => by
    unfold reduceAll at h
    obtain ⟨zs, hz, h⟩ := bind_ok h
    obtain ⟨hne, hlen⟩ := reduce_ok hz
    obtain ⟨hlen', hempty⟩ := reduceAll_ok h
    exact ⟨by rw [List.length_cons]; omega, fun hy => absurd (hempty hy) hne⟩

/-- The number of operators that are pending. -/
def pendingOperators (pend : List Pending) : Nat := pend.countP (· ≠ .paren)

@[simp] theorem pendingOperators_paren (pend : List Pending) :
    pendingOperators (.paren :: pend) = pendingOperators pend := by
  simp [pendingOperators]

@[simp] theorem pendingOperators_operator (op : Operator) (pend : List Pending) :
    pendingOperators (.operator op :: pend) = pendingOperators pend + 1 := by
  simp [pendingOperators]

@[simp] theorem pendingOperators_operators (os : List Operator) (pend : List Pending) :
    pendingOperators (os.map .operator ++ pend) = os.length + pendingOperators pend := by
  simp [pendingOperators, List.countP_map, Function.comp_def]

/-- What the state after some tokens has to do with their counts: the operands that are there and the
operators that are applied account for the words. -/
structure Accounts (done : List Token) (s : State) : Prop where
  afterAnd : s.afterAnd = true ↔ done.getLast? = some (.operator .and)
  balance : s.operands.length + operatorCount done = wordCount done + pendingOperators s.pending
  words : s.operands = [] → wordCount done = 0

/-- Every token keeps the account: a word adds an operand, an operator is pending until it is applied,
and the `not` of an `and not` takes the place of one that is pending. -/
theorem Accounts.step {r : String → DocSet} {done : List Token} {s s' : State} {t : Token}
    (h : Accounts done s) (ha : AfterAnd s) (hst : Steps r s t s') : Accounts (done ++ [t]) s' := by
  obtain ⟨hand, hbal, hwords⟩ := h
  have hcount := operatorCount_concat done t
  have hword := wordCount_append done [t]
  cases hst with
  | opening =>
    simp only [operatorCount, ite_self, Nat.add_zero] at hcount
    rw [show wordCount [.opening] = 0 from rfl, Nat.add_zero] at hword
    refine ⟨by simp, ?_, fun hs => hword.trans (hwords hs)⟩
    rw [hcount, hword, pendingOperators_paren, hbal]
  | @closing os xs rest hp hr =>
    simp only [operatorCount, ite_self, Nat.add_zero] at hcount
    rw [show wordCount [.closing] = 0 from rfl, Nat.add_zero] at hword
    obtain ⟨hlen, hempty⟩ := reduceAll_ok hr
    refine ⟨by simp, ?_, fun hs => hword.trans (hwords (hempty hs))⟩
    rw [hp, pendingOperators_operators, pendingOperators_paren] at hbal
    show xs.length + _ = _ + pendingOperators rest
    omega
  | andNot h =>
    obtain ⟨rest, hp⟩ := ha h
    rw [if_pos ⟨hand.1 h, rfl⟩, Nat.add_zero] at hcount
    rw [show wordCount [.operator .exclude] = 0 from rfl, Nat.add_zero] at hword
    refine ⟨by simp, ?_, fun hs => hword.trans (hwords hs)⟩
    rw [hp, pendingOperators_operator] at hbal
    rw [hp, List.tail_cons, pendingOperators_operator, hcount, hword, hbal]
  | @operator op os xs rest hn hp hr =>
    have hno : ¬ Completes done (.operator op) := by
      rintro ⟨hlast, hop⟩
      exact hn ⟨Token.operator.inj hop, hand.2 hlast⟩
    have hone : operatorCount [.operator op] = 1 := by cases op <;> rfl
    rw [if_neg hno, hone] at hcount
    rw [show wordCount [.operator op] = 0 from rfl, Nat.add_zero] at hword
    obtain ⟨hlen, hempty⟩ := reduceAll_ok hr
    refine ⟨by simp, ?_, fun hs => hword.trans (hwords (hempty hs))⟩
    rw [hp, pendingOperators_operators] at hbal
    show xs.length + _ = _ + pendingOperators (.operator op :: rest)
    rw [pendingOperators_operator]
    omega
  | word w =>
    simp only [operatorCount, ite_self, Nat.add_zero] at hcount
    rw [show wordCount [.word w] = 1 from rfl] at hword
    refine ⟨by simp, ?_, fun hs => absurd hs (List.cons_ne_nil _ _)⟩
    show (r w :: s.operands).length + _ = _ + pendingOperators s.pending
    rw [List.length_cons]
    omega

/-- The operands that are left are as many as the words have more than the operators, and there are
none only if there are no words. -/
theorem length_leftOperands {r : String → DocSet} {ts : List Token} {xs : List DocSet}
    (h : leftOperands r ts = .ok xs) :
    xs.length + operatorCount ts = wordCount ts ∧ (xs = [] → wordCount ts = 0) := by
  obtain ⟨s, os, hrun, hp, hr⟩ := leftOperands_ok h
  have hstart : Accounts [] ⟨[], [], false⟩ := ⟨by simp, rfl, fun _ => rfl⟩
  obtain ⟨-, hbal, hwords⟩ := run_induction hstart (fun _ _ _ _ h ha hst => h.step ha hst) hrun
  obtain ⟨hlen, hempty⟩ := reduceAll_ok hr
  have hpending := pendingOperators_operators os []
  rw [List.append_nil, ← hp] at hpending
  rw [hpending] at hbal
  refine ⟨?_, fun hx => hwords (hempty hx)⟩
  have hnil : pendingOperators [] = 0 := rfl
  omega

/-! ## Errors -/

theorem bind_error {β γ : Type} {x : Except QueryError β} {f : β → Except QueryError γ} {e : QueryError}
    (h : (do f (← x)) = .error e) : x = .error e ∨ ∃ b, x = .ok b ∧ f b = .error e := by
  rcases x with e' | b
  · cases h; exact .inl rfl
  · exact .inr ⟨b, rfl, h⟩

/-- The errors of a computation that applies operators and closes parentheses: an operator with `P`
lacks an operand, or a parenthesis has no partner, and then `Q`. -/
def Fault (P : Operator → Prop) (Q : Prop) (e : QueryError) : Prop :=
  (∃ op, P op ∧ e = .missingOperand op) ∨ (e = .unbalancedParenthesis ∧ Q)

theorem Fault.imp {P P' : Operator → Prop} {Q Q' : Prop} {e : QueryError} (h : Fault P Q e)
    (hP : ∀ op, P op → P' op) (hQ : Q → Q') : Fault P' Q' e :=
  Or.imp (fun ⟨op, hop, he⟩ => ⟨op, hP op hop, he⟩) (And.imp_right hQ) h

theorem reduce_error {op : Operator} {xs : List DocSet} {e : QueryError} (h : reduce op xs = .error e) :
    e = .missingOperand op := by
  unfold reduce at h
  split at h
  · cases h
  · cases h; rfl

theorem closeParen_error : ∀ {pend : List Pending} {xs : List DocSet} {e : QueryError},
    closeParen xs pend = .error e → Fault (.operator · ∈ pend) (pend.count .paren = 0) e
  | [], _, _, h => by cases h; exact .inr ⟨rfl, rfl⟩
  | .paren :: pend, _, _, h => by cases h
  | .operator op :: pend, xs, e, h => by
    unfold closeParen at h
    rcases bind_error h with h | ⟨ys, -, h⟩
    · exact .inl ⟨op, List.mem_cons_self, reduce_error h⟩
    · exact (closeParen_error h).imp (fun _ => List.mem_cons_of_mem _) (by simp)

theorem applyTighter_error {op : Operator} : ∀ {pend : List Pending} {xs : List DocSet} {e : QueryError},
    applyTighter op xs pend = .error e → Fault (.operator · ∈ pend) False e
  | [], _, _, h => by cases h
  | .paren :: pend, _, _, h => by cases h
  | .operator top :: pend, xs, e, h => by
    unfold applyTighter at h
    split at h
    · cases h
    · rcases bind_error h with h | ⟨ys, -, h⟩
      · exact .inl ⟨top, List.mem_cons_self, reduce_error h⟩
      · exact (applyTighter_error h).imp (fun _ => List.mem_cons_of_mem _) id

theorem applyAll_error : ∀ {pend : List Pending} {xs : List DocSet} {e : QueryError},
    applyAll xs pend = .error e → Fault (.operator · ∈ pend) (pend.count .paren ≠ 0) e
  | [], _, _, h => by cases h
  | .paren :: pend, _, _, h => by cases h; exact .inr ⟨rfl, by simp⟩
  | .operator op :: pend, xs, e, h => by
    unfold applyAll at h
    rcases bind_error h with h | ⟨ys, -, h⟩
    · exact .inl ⟨op, List.mem_cons_self, reduce_error h⟩
    · exact (applyAll_error h).imp (fun _ => List.mem_cons_of_mem _) (by simp)

/-- A token fails with a pending operator, or it closes a parenthesis that is not open. -/
theorem step_error {r : String → DocSet} {s : State} {t : Token} {e : QueryError}
    (h : step r s t = .error e) :
    Fault (.operator · ∈ s.pending) (openAfter (s.pending.count .paren) [t] = none) e := by
  cases t with
  | opening => cases h
  | word w => cases h
  | closing =>
    rcases bind_error h with h | ⟨_, -, h⟩
    · exact (closeParen_error h).imp (fun _ => id) fun h0 => by rw [h0]; rfl
    · cases h
  | operator op =>
    simp only [step] at h
    split at h
    · cases h
    · rcases bind_error h with h | ⟨_, -, h⟩
      · exact (applyTighter_error h).imp (fun _ => id) False.elim
      · cases h

/-- What is pending after a token was pending before it, or is that token. -/
theorem Steps.operator_mem {r : String → DocSet} {s s' : State} {t : Token} (h : Steps r s t s')
    {op : Operator} (hop : .operator op ∈ s'.pending) : .operator op ∈ s.pending ∨ t = .operator op := by
  cases h with
  | opening => exact .inl (by simpa using hop)
  | closing hp hr =>
    rw [hp]
    exact .inl (List.mem_append_right _ (List.mem_cons_of_mem _ hop))
  | andNot h =>
    rcases List.mem_cons.1 hop with hop | hop
    · cases hop; exact .inr rfl
    · exact .inl (List.mem_of_mem_tail hop)
  | operator hn hp hr =>
    rcases List.mem_cons.1 hop with hop | hop
    · cases hop; exact .inr rfl
    · rw [hp]
      exact .inl (List.mem_append_right _ hop)
  | word w => exact .inl hop

/-- A run fails with an operator of its tokens or one that was pending before, or its tokens close a
parenthesis that is not open. -/
theorem run_error {r : String → DocSet} : ∀ {ts : List Token} {s : State} {e : QueryError},
    AfterAnd s → ts.foldlM (step r) s = .error e →
      Fault (fun op => .operator op ∈ s.pending ∨ .operator op ∈ ts)
        (openAfter (s.pending.count .paren) ts = none) e
  | [], _, _, _, h => by cases h
  | t :: ts, s, e, ha, h => by
    rw [List.foldlM_cons] at h
    have hopen := openAfter_append (s.pending.count .paren) [t] ts
    rw [List.singleton_append] at hopen
    rcases bind_error h with h | ⟨s', hs, h⟩
    · exact (step_error h).imp (fun _ => .inl) fun hnone => by rw [hopen, hnone]; rfl
    · have hst := steps_of_ok hs
      refine (run_error hst.afterAnd h).imp (fun op hop => ?_) fun hnone => ?_
      · rcases hop with hop | hop
        · exact (hst.operator_mem hop).imp_right fun ht => List.mem_cons.2 (.inl ht.symm)
        · exact .inr (List.mem_cons_of_mem _ hop)
      · rw [hopen, hst.openAfter ha]
        exact hnone

/-- An evaluation that does not come to its end fails with an operator of the query, or the
parentheses of the query do not match. -/
theorem leftOperands_error {r : String → DocSet} {ts : List Token} {e : QueryError}
    (h : leftOperands r ts = .error e) : Fault (.operator · ∈ ts) (¬ Balanced ts) e := by
  unfold leftOperands at h
  rcases bind_error h with h | ⟨s, hs, h⟩
  · refine (run_error (fun h => by cases h) h).imp (fun op hop => ?_) fun hnone hb => ?_
    · exact hop.resolve_left List.not_mem_nil
    · rw [Balanced] at hb
      rw [show openAfter 0 ts = none from hnone] at hb
      cases hb
  · have hmem : ∀ op, .operator op ∈ s.pending → .operator op ∈ ts := by
      refine run_induction (P := fun ts s => ∀ op, .operator op ∈ s.pending → .operator op ∈ ts)
        (fun op h => absurd h List.not_mem_nil) ?_ hs
      intro ts s t s' hs _ hst op hop
      rcases hst.operator_mem hop with hop | rfl
      · exact List.mem_append_left _ (hs op hop)
      · exact List.mem_append_right _ (List.mem_singleton.2 rfl)
    refine (applyAll_error h).imp hmem fun hcount hb => hcount ?_
    rw [Balanced, openAfter_of_run hs] at hb
    exact Option.some.inj hb

/-! ## Queries and their counts -/

theorem operatorCount_eq_zero_iff (ts : List Token) :
    operatorCount ts = 0 ↔ ∀ op, .operator op ∉ ts := by
  fun_induction operatorCount ts with
  | case1 => simp
  | case2 ts ih => exact iff_of_false (Nat.succ_ne_zero _) fun h => h .and List.mem_cons_self
  | case3 op ts h ih => exact iff_of_false (Nat.succ_ne_zero _) fun h => h op List.mem_cons_self
  | case4 t ts h h' ih =>
    rw [ih]
    refine forall_congr' fun op => not_congr ?_
    rw [List.mem_cons, or_iff_right fun ht => h' op ht.symm]

/-- A query of parentheses only is one without words and operators. -/
theorem forall_paren_iff (ts : List Token) :
    (∀ t ∈ ts, t = .opening ∨ t = .closing) ↔ wordCount ts = 0 ∧ operatorCount ts = 0 := by
  rw [operatorCount_eq_zero_iff, wordCount, List.countP_eq_zero]
  constructor
  · intro h
    refine ⟨fun t ht => ?_, fun op hop => ?_⟩
    · rcases h t ht with rfl | rfl <;> simp
    · rcases h _ hop with h | h <;> cases h
  · rintro ⟨hword, hop⟩ t ht
    cases t with
    | opening => exact .inl rfl
    | closing => exact .inr rfl
    | operator op => exact absurd ht (hop op)
    | word w => exact absurd rfl (hword _ ht)

/-- How a query ends, by what was left of it: with an operand that is missing or a parenthesis without
a partner, or at its end with the balance of its words and operators. -/
theorem evaluateTokens_cases (r : String → DocSet) (ts : List Token) :
    (∃ e, evaluateTokens r ts = .error e ∧ Fault (.operator · ∈ ts) (¬ Balanced ts) e) ∨
      (∃ xs, evaluateTokens r ts = answer xs ∧ Balanced ts ∧
        xs.length + operatorCount ts = wordCount ts ∧ (xs = [] → wordCount ts = 0)) := by
  rw [evaluateTokens_eq]
  cases h : leftOperands r ts with
  | error e => exact .inl ⟨e, rfl, leftOperands_error h⟩
  | ok xs => exact .inr ⟨xs, rfl, balanced_of_leftOperands h, length_leftOperands h⟩

/-- Operands and operators of any query account for its outcome. A query whose parentheses do not
match has one of two errors; an answer needs one word more than operators, and two operands without
an operator need two more; with no more words than operators an operand is missing, and a query is
empty exactly if it has only parentheses. -/
theorem evaluate_accounts (p : Postings) (query : String) :
    (¬ Balanced (tokens query) → evaluate p query = .error .unbalancedParenthesis ∨
      ∃ op, .operator op ∈ tokens query ∧ evaluate p query = .error (.missingOperand op)) ∧
    (evaluate p query = .error .emptyExpression ↔
      Balanced (tokens query) ∧ ∀ t ∈ tokens query, t = .opening ∨ t = .closing) ∧
    (∀ s, evaluate p query = .ok s →
      Balanced (tokens query) ∧ wordCount (tokens query) = operatorCount (tokens query) + 1) ∧
    (evaluate p query = .error .missingOperator →
      Balanced (tokens query) ∧ operatorCount (tokens query) + 2 ≤ wordCount (tokens query)) ∧
    (Balanced (tokens query) → 1 ≤ operatorCount (tokens query) →
      wordCount (tokens query) ≤ operatorCount (tokens query) →
      ∃ op, .operator op ∈ tokens query ∧ evaluate p query = .error (.missingOperand op)) := by
  unfold evaluate
  generalize tokens query = ts
  rw [forall_paren_iff]
  rcases evaluateTokens_cases (resolve p) ts with
    ⟨e, he, ⟨op, hop, rfl⟩ | ⟨rfl, hb⟩⟩ | ⟨xs, hx, hb, hlen, hempty⟩
  · have hcount : operatorCount ts ≠ 0 := fun h => (operatorCount_eq_zero_iff ts).1 h op hop
    rw [he]
    exact ⟨fun _ => .inr ⟨op, hop, rfl⟩, iff_of_false nofun fun h => hcount h.2.2, nofun, nofun,
      fun _ _ _ => ⟨op, hop, rfl⟩⟩
  · rw [he]
    exact ⟨fun _ => .inl rfl, iff_of_false nofun fun h => hb h.1, nofun, nofun, fun h => absurd h hb⟩
  · rw [hx]
    refine ⟨fun h => absurd hb h, ?_⟩
    match xs, hlen, hempty with
    | [], hlen, hempty =>
      have hword := hempty rfl
      rw [List.length_nil] at hlen
      exact ⟨iff_of_true rfl ⟨hb, hword, by omega⟩, nofun, nofun, by omega⟩
    | [d], hlen, _ =>
      rw [List.length_singleton] at hlen
      exact ⟨iff_of_false nofun (by omega), fun _ _ => ⟨hb, by omega⟩, nofun, by omega⟩
    | d :: d' :: xs, hlen, _ =>
      rw [List.length_cons, List.length_cons] at hlen
      exact ⟨iff_of_false nofun (by omega), nofun, fun _ => ⟨hb, by omega⟩, by omega⟩

end DocSearch.BoolQuery
