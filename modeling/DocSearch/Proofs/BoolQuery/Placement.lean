/-
Which queries are in infix form. A query is in infix form exactly if its parentheses match and every
two neighbouring tokens fit each other. An evaluation with an answer has matched the parentheses but
compares no neighbours, so the queries that are evaluated though they are not in infix form are those
with an answer and a misplaced token: `cat dog and`, `not cat dog`, `cat (dog and)`.
-/
import DocSearch.Postings.Record
import DocSearch.Proofs.BoolQuery.Infix
import DocSearch.Proofs.BoolQuery.Steps
import Mathlib.Data.List.Chain

namespace DocSearch.BoolQuery

/-! ## Parentheses -/

/-- How many parentheses are open after the given tokens if `n` were open before them; none if one
is closed that was not open. -/
def openAfter : Nat → List Token → Option Nat
  | n, [] => some n
  | n, .opening :: ts => openAfter (n + 1) ts
  | 0, .closing :: _ => none
  | n + 1, .closing :: ts => openAfter n ts
  | n, .operator _ :: ts => openAfter n ts
  | n, .word _ :: ts => openAfter n ts

/-- Whether every parenthesis of a query matches another one. -/
def Balanced (ts : List Token) : Prop := openAfter 0 ts = some 0

theorem openAfter_append : ∀ (n : Nat) (ts us : List Token),
    openAfter n (ts ++ us) = (openAfter n ts).bind (openAfter · us)
  | n, [], us => by simp [openAfter]
  | n, .opening :: ts, us => by simpa [openAfter] using openAfter_append (n + 1) ts us
  | 0, .closing :: ts, us => by simp [openAfter]
  | n + 1, .closing :: ts, us => by simpa [openAfter] using openAfter_append n ts us
  | n, .operator _ :: ts, us => by simpa [openAfter] using openAfter_append n ts us
  | n, .word _ :: ts, us => by simpa [openAfter] using openAfter_append n ts us

theorem count_paren_operators (os : List Operator) : (os.map Pending.operator).count .paren = 0 := by
  simp [List.count_eq_zero]

/-- Each token changes the number of pending parentheses as it opens or closes one. -/
theorem Steps.openAfter {r : String → DocSet} {s s' : State} {t : Token} (h : Steps r s t s')
    (ha : AfterAnd s) :
    openAfter (s.pending.count .paren) [t] = some (s'.pending.count .paren) := by
  cases h with
  | opening => simp [BoolQuery.openAfter]
  | closing hp hr => simp [hp, BoolQuery.openAfter, count_paren_operators]
  | andNot h =>
    obtain ⟨rest, hp⟩ := ha h
    simp [hp, BoolQuery.openAfter]
  | operator hn hp hr => simp [hp, BoolQuery.openAfter, count_paren_operators]
  | word => simp [BoolQuery.openAfter]

theorem openAfter_of_run {r : String → DocSet} {ts : List Token} {s : State}
    (h : ts.foldlM (step r) ⟨[], [], false⟩ = .ok s) :
    openAfter 0 ts = some (s.pending.count .paren) := by
  refine run_induction (P := fun ts s => openAfter 0 ts = some (s.pending.count .paren)) rfl ?_ h
  intro ts s t s' hs ha hst
  rw [openAfter_append, hs]
  exact hst.openAfter ha

theorem balanced_of_leftOperands {r : String → DocSet} {ts : List Token} {xs : List DocSet}
    (h : leftOperands r ts = .ok xs) : Balanced ts := by
  obtain ⟨s, os, hrun, hp, -⟩ := leftOperands_ok h
  have hopen := openAfter_of_run hrun
  rwa [hp, count_paren_operators] at hopen

theorem balanced_of_ok {r : String → DocSet} {ts : List Token} {d : DocSet}
    (h : evaluateTokens r ts = .ok d) : Balanced ts :=
  balanced_of_leftOperands (leftOperands_of_ok h)

/-! ## Neighbours -/

/-- Whether an operand may start with a token. -/
def Token.startsOperand : Token → Bool
  | .opening | .word _ => true
  | _ => false

/-- Whether an operand may end with a token. -/
def Token.endsOperand : Token → Bool
  | .closing | .word _ => true
  | _ => false

/-- Whether a token may stand before another one: an operand starts where none has ended, and `not`
may follow `and`. -/
def Fits (a b : Token) : Prop :=
  (a.endsOperand != b.startsOperand) = true ∨ (a = .operator .and ∧ b = .operator .exclude)

instance : DecidableRel Fits := fun a b => by unfold Fits; infer_instance

/-- Whether neighbouring tokens of a query fit, when the query stands between parentheses. -/
def WellPlaced (ts : List Token) : Prop := (.opening :: (ts ++ [.closing])).IsChain Fits

theorem fits_start {a b : Token} (ha : a.endsOperand = false) (hb : b.startsOperand = true) :
    Fits a b := by
  simp [Fits, ha, hb]

theorem fits_end {a b : Token} (ha : a.endsOperand = true) (hb : b.startsOperand = false) :
    Fits a b := by
  simp [Fits, ha, hb]

/-- Behind the end of an operand the token that ended it makes no difference. -/
theorem isChain_closing {a : Token} {ts : List Token} (ha : a.endsOperand = true)
    (h : (a :: ts).IsChain Fits) : (Token.closing :: ts).IsChain Fits := by
  cases ts with
  | nil => exact .singleton _
  | cons b ts =>
    rw [List.isChain_cons_cons] at h ⊢
    refine ⟨?_, h.2⟩
    rcases h.1 with hf | ⟨rfl, -⟩
    · rw [ha] at hf; exact .inl hf
    · cases ha

/-- The tokens of a part fit wherever an operand may stand. -/
theorem isChain_tokens {a b : Token} (ha : a.endsOperand = false) (hb : b.startsOperand = false) :
    ∀ {part : Infix.Part} (x : Infix part), (a :: (x.tokens ++ [b])).IsChain Fits
  | _, .word w => by
    simp only [Infix.tokens, List.singleton_append, List.isChain_cons_cons]
    exact ⟨fits_start ha rfl, fits_end rfl hb, .singleton _⟩
  | _, .group e => by
    have he := isChain_tokens (a := .opening) (b := .closing) rfl rfl e
    simp only [Infix.tokens, List.cons_append, List.append_assoc, List.isChain_cons_cons,
      List.nil_append]
    refine ⟨fits_start ha rfl, ?_⟩
    rw [← List.cons_append, List.isChain_split]
    exact ⟨he, List.isChain_pair.2 (fits_end rfl hb)⟩
  | _, .first x => isChain_tokens ha hb x
  | _, .tied c l x => by
    have hc := fun o => isChain_tokens (b := .operator o) ha rfl c
    have hx := fun o => isChain_tokens (a := .operator o) rfl hb x
    simp only [Infix.tokens, List.append_assoc]
    cases l <;> simp only [Link.tokens, List.cons_append, List.nil_append] <;>
      rw [← List.cons_append, List.isChain_split]
    · exact ⟨hc .and, hx .and⟩
    · exact ⟨hc .exclude, hx .exclude⟩
    · exact ⟨hc .and, List.isChain_cons_cons.2 ⟨.inr ⟨rfl, rfl⟩, hx .exclude⟩⟩
  | _, .only c => isChain_tokens ha hb c
  | _, .either e c => by
    have he := isChain_tokens (b := .operator .or) ha rfl e
    have hc := isChain_tokens (a := .operator .or) rfl hb c
    simp only [Infix.tokens, List.append_assoc, List.cons_append]
    rw [← List.cons_append, List.isChain_split]
    exact ⟨he, hc⟩

/-! ## Reading an expression back -/

/-- Ties an atom to the last chain of an expression. -/
def Infix.extend (e : Infix .expr) (l : Link) (a : Infix .atom) : Infix .expr :=
  match e with
  | .only c => .only (.tied c l a)
  | .either e c => .either e (.tied c l a)

theorem Infix.tokens_extend (e : Infix .expr) (l : Link) (a : Infix .atom) :
    (e.extend l a).tokens = e.tokens ++ (l.tokens ++ a.tokens) := by
  cases e <;> simp [Infix.extend, Infix.tokens]

/-- Inside parentheses a token that no operand ends with is followed by the start of an operand, or
is the `and` of an `and not`. -/
theorem exists_start {a : Token} {ts : List Token} {n : Nat} (ha : a.endsOperand = false)
    (hf : (a :: ts).IsChain Fits) (ho : openAfter (n + 1) ts = some 0) :
    ∃ b us, ts = b :: us ∧
      (b.startsOperand = true ∨ (a = .operator .and ∧ b = .operator .exclude)) := by
  cases ts with
  | nil => cases ho
  | cons b us =>
    refine ⟨b, us, rfl, ?_⟩
    rcases (List.isChain_cons_cons.1 hf).1 with h | h
    · rw [ha] at h; exact .inl (by simpa using h)
    · exact .inr h

/-- What is left of a query after an operand: it fits the operand and closes all but `n` of the open
parentheses. -/
structure Rest (n : Nat) (ts : List Token) : Prop where
  fits : (Token.closing :: ts).IsChain Fits
  closes : openAfter n ts = some 0

mutual

/-- Where an operand starts, an atom can be read. -/
theorem exists_atom {b : Token} {us : List Token} {n : Nat} (hb : b.startsOperand = true)
    (hf : (b :: us).IsChain Fits) (ho : openAfter (n + 1) (b :: us) = some 0) :
    ∃ (a : Infix .atom) (rest : List Token), b :: us = a.tokens ++ rest ∧
      rest.length ≤ us.length ∧ Rest (n + 1) rest := by
  cases b with
  | word w => exact ⟨.word w, us, rfl, le_rfl, isChain_closing rfl hf, ho⟩
  | opening =>
    obtain ⟨c, vs, rfl, hc⟩ := exists_start (n := n + 1) rfl hf ho
    have hc : c.startsOperand = true := hc.resolve_right fun h => by cases h.1
    obtain ⟨a, rest, hvs, hlen, hrest⟩ :=
      exists_atom (n := n + 1) hc (List.isChain_cons_cons.1 hf).2 ho
    obtain ⟨e, rest', he, hlen', hrest'⟩ := exists_expr (.only (.first a)) hrest
    refine ⟨.group e, rest', ?_, by simp; omega, hrest'⟩
    rw [hvs]
    show Token.opening :: ((Infix.only (.first a)).tokens ++ rest) = _
    rw [he]
    simp [Infix.tokens]
  | closing => cases hb
  | operator op => cases hb
termination_by us.length
decreasing_by all_goals subst_vars; simp only [List.length_cons]; omega

/-- An expression that has been read can be read on up to the parenthesis that closes it. -/
theorem exists_expr (e : Infix .expr) {ts : List Token} {n : Nat} (h : Rest (n + 1) ts) :
    ∃ (e' : Infix .expr) (rest : List Token), e.tokens ++ ts = e'.tokens ++ .closing :: rest ∧
      rest.length < ts.length ∧ Rest n rest := by
  obtain ⟨hf, ho⟩ := h
  cases ts with
  | nil => cases ho
  | cons t us =>
    obtain ⟨hft, hf⟩ := List.isChain_cons_cons.1 hf
    cases t with
    | closing => exact ⟨e, us, rfl, Nat.lt_succ_self _, hf, ho⟩
    | word w => rcases hft with h | h <;> simp_all [Token.endsOperand, Token.startsOperand]
    | opening => rcases hft with h | h <;> simp_all [Token.endsOperand, Token.startsOperand]
    | operator op =>
      obtain ⟨b, vs, rfl, hb⟩ := exists_start (n := n) rfl hf ho
      have hfb := (List.isChain_cons_cons.1 hf).2
      rcases hb with hb | ⟨hop, rfl⟩
      · -- an atom follows the operator: it is tied to the last chain, or starts the next one
        obtain ⟨a, rest, hvs, hlen, hrest⟩ := exists_atom hb hfb ho
        have hgo : ∃ e₁ : Infix .expr, e.tokens ++ .operator op :: (b :: vs) = e₁.tokens ++ rest := by
          rw [hvs]
          cases op with
          | or => exact ⟨.either e (.first a), by simp [Infix.tokens]⟩
          | and => exact ⟨e.extend .and a, by simp [Infix.tokens_extend, Link.tokens]⟩
          | exclude => exact ⟨e.extend .not a, by simp [Infix.tokens_extend, Link.tokens]⟩
        obtain ⟨e₁, he₁⟩ := hgo
        obtain ⟨e', rest', he', hlen', hrest'⟩ := exists_expr e₁ hrest
        exact ⟨e', rest', he₁.trans he', by simp; omega, hrest'⟩
      · -- `and not`: the atom follows the second operator
        obtain ⟨b, ws, rfl, hb⟩ := exists_start (n := n) rfl hfb ho
        have hb : b.startsOperand = true := hb.resolve_right fun h => by cases h.1
        obtain ⟨a, rest, hws, hlen, hrest⟩ := exists_atom hb (List.isChain_cons_cons.1 hfb).2 ho
        obtain ⟨e', rest', he', hlen', hrest'⟩ := exists_expr (e.extend .andNot a) hrest
        refine ⟨e', rest', ?_, by simp; omega, hrest'⟩
        rw [← he', Infix.tokens_extend, hws, hop]
        simp [Link.tokens]
termination_by ts.length
decreasing_by all_goals subst_vars; simp only [List.length_cons]; omega

end

/-! ## Queries in infix form -/

theorem openAfter_succ : ∀ (n m : Nat) (ts : List Token), openAfter n ts = some m →
    openAfter (n + 1) ts = some (m + 1)
  | n, m, [], h => by cases h; rfl
  | n, m, .opening :: ts, h => openAfter_succ (n + 1) m ts h
  | 0, m, .closing :: ts, h => by cases h
  | n + 1, m, .closing :: ts, h => openAfter_succ n m ts h
  | n, m, .operator _ :: ts, h => openAfter_succ n m ts h
  | n, m, .word _ :: ts, h => openAfter_succ n m ts h

theorem balanced_tokens (e : Infix .expr) : Balanced e.tokens :=
  balanced_of_ok (evaluateTokens_tokens (fun _ => ∅) e)

/-- With the query between parentheses, the expression that is read up to the closing one is the
whole query: another closing parenthesis would have nothing to close. -/
theorem exists_expression {ts : List Token} (hb : Balanced ts) (hp : WellPlaced ts) :
    ∃ e : Infix .expr, ts = e.tokens := by
  have ho : openAfter 1 (ts ++ [.closing]) = some 0 := by
    rw [openAfter_append, openAfter_succ _ _ _ hb]; rfl
  obtain ⟨b, us, hus, hstart⟩ := exists_start rfl hp ho
  have hstart : b.startsOperand = true := hstart.resolve_right fun h => by cases h.1
  unfold WellPlaced at hp
  rw [hus] at hp ho
  obtain ⟨a, rest, ha, -, hrest⟩ := exists_atom hstart (List.isChain_cons_cons.1 hp).2 ho
  obtain ⟨e, rest', he, -, -⟩ := exists_expr (.only (.first a)) hrest
  have hts : ts ++ [.closing] = e.tokens ++ .closing :: rest' := by rw [hus, ha]; exact he
  -- either the added parenthesis is the closing one, or one before it is, which nothing opens
  rcases List.eq_nil_or_concat rest' with rfl | ⟨rest'', t, rfl⟩
  · exact ⟨e, List.append_cancel_right hts⟩
  · have hts : ts = e.tokens ++ .closing :: rest'' := by
      rw [List.concat_eq_append, ← List.cons_append, ← List.append_assoc] at hts
      exact (List.append_inj' hts rfl).1
    have hopen := openAfter_append 0 e.tokens (.closing :: rest'')
    rw [← hts, hb, balanced_tokens e] at hopen
    cases hopen

/-- A token list is that of an infix expression exactly if its parentheses match and its neighbours
fit. -/
theorem exists_expression_iff (ts : List Token) :
    (∃ e : Infix .expr, ts = e.tokens) ↔ Balanced ts ∧ WellPlaced ts := by
  constructor
  · rintro ⟨e, rfl⟩; exact ⟨balanced_tokens e, isChain_tokens rfl rfl e⟩
  · rintro ⟨hb, hp⟩; exact exists_expression hb hp

/-- A query that has an answer is in infix form exactly if its neighbouring tokens fit, and every
query in infix form has one. The evaluation itself looks at no neighbours: among the queries with an
answer those with a misplaced token are the ones that are not in infix form. -/
theorem infix_iff_answered_and_placed (p : Postings) (query : String) :
    (∃ e : Infix .expr, tokens query = e.tokens) ↔
      (∃ s, evaluate p query = .ok s) ∧ WellPlaced (tokens query) := by
  rw [exists_expression_iff]
  constructor
  · rintro ⟨hb, hp⟩
    obtain ⟨e, he⟩ := exists_expression hb hp
    exact ⟨⟨e.docs (resolve p), by rw [evaluate, he, evaluateTokens_tokens]⟩, hp⟩
  · rintro ⟨⟨s, hs⟩, hp⟩
    exact ⟨balanced_of_ok hs, hp⟩

/-- A query that starts with `not` may have an answer, here that of `cat not dog`. -/
theorem leading_not_answered :
    (evaluate (Postings.ofText "cat:1,2,3\ndog:2,4\n") "not cat dog").toOption.map (·.toList) =
        some [1, 3] ∧
      ¬ ∃ e : Infix .expr, tokens "not cat dog" = e.tokens := by
  refine ⟨by decide +kernel, fun h => ?_⟩
  have hp : ¬ WellPlaced (tokens "not cat dog") := by unfold WellPlaced; decide +kernel
  exact hp ((exists_expression_iff _).1 h).2

end DocSearch.BoolQuery
