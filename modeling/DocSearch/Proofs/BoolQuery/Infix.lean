/-
Infix queries on the evaluator. The tokens of an infix part turn the stacks of the evaluator into
the same stacks with one operand on top and, between the two, a frame of operators that still wait
for their right operand. The invariant is that filling the frame with the topmost operand gives the
documents of the part. So every query in infix form has an answer, and it selects a document exactly
if some chain of the query does.
-/
import DocSearch.BoolQuery.Grammar
import DocSearch.Postings.Record
import DocSearch.Proofs.BoolQuery.Frame
import Mathlib.Tactic.ByContra

namespace DocSearch.BoolQuery

/-! ## The documents of an expression -/

namespace Infix

/-- The documents of an expression or a part of one. -/
def docs (r : String → DocSet) {part : Part} : Infix part → DocSet
  | .word w => r w
  | .group e => e.docs r
  | .first a => a.docs r
  | .tied c .and a => c.docs r ∩ a.docs r
  | .tied c .not a => c.docs r \ a.docs r
  | .tied c .andNot a => c.docs r \ a.docs r
  | .only c => c.docs r
  | .either e c => e.docs r ∪ c.docs r

theorem mem_docs (r : String → DocSet) (d : DocId) :
    ∀ {part : Part} (x : Infix part), d ∈ x.docs r ↔ x.Selects r d
  | _, .word w => by simp only [docs, Selects]
  | _, .group e => by simp only [docs, Selects, mem_docs r d e]
  | _, .first a => by simp only [docs, Selects, mem_docs r d a]
  | _, .tied c .and a => by
    simp only [docs, Selects, Std.ExtTreeSet.mem_inter_iff, mem_docs r d c, mem_docs r d a]
  | _, .tied c .not a => by
    simp only [docs, Selects, Std.ExtTreeSet.mem_diff_iff, mem_docs r d c, mem_docs r d a]
  | _, .tied c .andNot a => by
    simp only [docs, Selects, Std.ExtTreeSet.mem_diff_iff, mem_docs r d c, mem_docs r d a]
  | _, .only c => by simp only [docs, Selects, mem_docs r d c]
  | _, .either e c => by
    simp only [docs, Selects, Std.ExtTreeSet.mem_union_iff, mem_docs r d e, mem_docs r d c]

/-- The chains of an expression, from the left. -/
def chains : Infix .expr → List (Infix .chain)
  | .only c => [c]
  | .either e c => e.chains ++ [c]

/-- The first atom of a chain. -/
def head : Infix .chain → Infix .atom
  | .first a => a
  | .tied c _ _ => c.head

/-- The atoms after the first one of a chain, each with its link. -/
def ties : Infix .chain → List (Link × Infix .atom)
  | .first _ => []
  | .tied c l a => c.ties ++ [(l, a)]

theorem selects_expr (r : String → DocSet) (d : DocId) :
    ∀ e : Infix .expr, e.Selects r d ↔ ∃ c ∈ e.chains, c.Selects r d
  | .only c => by simp [Selects, chains]
  | .either e c => by simp [Selects, chains, selects_expr r d e, or_and_right, exists_or]

theorem selects_chain (r : String → DocSet) (d : DocId) :
    ∀ c : Infix .chain, c.Selects r d ↔
      c.head.Selects r d ∧ ∀ t ∈ c.ties, (t.2.Selects r d ↔ t.1 = .and)
  | .first a => by simp [Selects, head, ties]
  | .tied c l a => by
    have ih := selects_chain r d c
    cases l <;> simp [Selects, head, ties, ih, or_imp, forall_and, and_assoc]

end Infix

/-! ## The frame of a part -/

/-- The pending stacks above which a part can be run: no operator on top may be one that the part's
own operators apply. -/
def Above : Infix.Part → List Pending → Prop
  | .atom, _ => True
  | .chain, pend => Stops .and pend
  | .expr, pend => Stops .or pend

/-- The frames that a part leaves: none after an atom, and after a chain exclusions inside
conjunctions. -/
def Leaves : Infix.Part → Frame → Prop
  | .atom, f => f = []
  | .chain, f => ∃ tight loose, f = tight ++ loose ∧ (∀ o ∈ tight, o.1 = .exclude) ∧
      ∀ o ∈ loose, o.1 = .and
  | .expr, _ => True

/-- What running the tokens of a part does: above any stacks that it can be run above, the state is
the frame of the part with its topmost operand, and filled it gives the documents of the part. -/
def Runs (r : String → DocSet) {part : Infix.Part} (x : Infix part) : Prop :=
  ∀ (ops : List DocSet) (pend : List Pending) (aa : Bool), Above part pend →
    ∃ (top : DocSet) (f : Frame), Leaves part f ∧ f.fill top = x.docs r ∧
      x.tokens.foldlM (step r) ⟨ops, pend, aa⟩ =
        .ok ⟨top :: (f.operands ++ ops), f.pending ++ pend, false⟩

/-- Intersections may be taken after an exclusion. -/
theorem fill_diff : ∀ (f : Frame) (x y : DocSet), (∀ o ∈ f, o.1 = .and) →
    f.fill (x \ y) = f.fill x \ y
  | [], _, _, _ => rfl
  | (op, a) :: f, x, y, h => by
    have hop : op = .and := h _ (List.mem_cons_self ..)
    have hxy : a ∩ (x \ y) = (a ∩ x) \ y := by
      apply Std.ExtTreeSet.ext_mem
      intro d
      simp only [Std.ExtTreeSet.mem_inter_iff, Std.ExtTreeSet.mem_diff_iff, and_assoc]
    subst hop
    rw [Frame.fill_cons, Frame.fill_cons, ← fill_diff f _ y fun o ho => h o (List.mem_cons_of_mem _ ho)]
    simp only [Operator.apply, hxy]

theorem stops_exclude {f : Frame} {pend : List Pending} (h : Stops .and pend)
    (hf : ∀ o ∈ f, o.1 = .and) : Stops .exclude (f.pending ++ pend) := by
  cases f with
  | nil => exact h.of_le (by decide)
  | cons o f =>
    rw [Frame.pending_cons, hf o (List.mem_cons_self ..)]
    exact stops_operator (by decide) _

theorem leaves_single (op : Operator) (hop : op = .and ∨ op = .exclude) (a : DocSet) :
    Leaves .chain [(op, a)] := by
  rcases hop with rfl | rfl
  · exact ⟨[], [(.and, a)], rfl, by simp, by simp⟩
  · exact ⟨[(.exclude, a)], [], rfl, by simp, by simp⟩

theorem Leaves.strength_le {f : Frame} (h : Leaves .chain f) :
    ∀ o ∈ f, Operator.and.strength ≤ o.1.strength := by
  obtain ⟨tight, loose, rfl, ht, hl⟩ := h
  intro o ho
  rcases List.mem_append.1 ho with ho | ho
  · rw [ht o ho]; decide
  · exact Nat.le_of_eq (by rw [hl o ho])

/-! ## Running the parts -/

section Parts

variable {r : String → DocSet}

theorem runs_word (w : String) : Runs r (.word w) := fun _ _ _ _ => ⟨r w, [], rfl, rfl, rfl⟩

/-- The frame of an expression in parentheses ends at the opening one, and is applied as a whole. -/
theorem runs_group {e : Infix .expr} (he : Runs r e) : Runs r (.group e) := by
  intro ops pend aa _
  obtain ⟨top, f, -, hv, hrun⟩ := he ops (.paren :: pend) false (stops_paren _ _)
  refine ⟨e.docs r, [], rfl, rfl, ?_⟩
  rw [Infix.tokens, List.foldlM_cons]
  show (e.tokens ++ [Token.closing]).foldlM (step r) ⟨ops, .paren :: pend, false⟩ = _
  rw [List.foldlM_append, hrun, ← hv]
  show [Token.closing].foldlM (step r) _ = _
  rw [List.foldlM_cons, step_closing r _ (closeParen_frame ops pend f top)]
  rfl

theorem runs_first {a : Infix .atom} (ha : Runs r a) : Runs r (.first a) := by
  intro ops pend aa _
  obtain ⟨top, f, rfl, hv, hrun⟩ := ha ops pend aa trivial
  exact ⟨top, [], ⟨[], [], rfl, by simp, by simp⟩, hv, hrun⟩

/-- An `and` applies the frame of the chain before it. -/
theorem run_and {c : Infix .chain} (hc : Runs r c) {ops : List DocSet} {pend : List Pending}
    {aa : Bool} (hp : Stops .and pend) :
    (c.tokens ++ [Token.operator .and]).foldlM (step r) ⟨ops, pend, aa⟩ =
      .ok ⟨c.docs r :: ops, .operator .and :: pend, true⟩ := by
  obtain ⟨top, f, hf, hv, hrun⟩ := hc ops pend aa hp
  rw [List.foldlM_append, hrun, ← hv]
  show [Token.operator .and].foldlM (step r) _ = _
  rw [List.foldlM_cons, step_operator r (by simp) (applyTighter_frame hp ops f top hf.strength_le)]
  rfl

theorem runs_and {c : Infix .chain} {a : Infix .atom} (hc : Runs r c) (ha : Runs r a) :
    Runs r (.tied c .and a) := by
  intro ops pend aa hp
  obtain ⟨top, f, rfl, hv, hrun⟩ :=
    ha (c.docs r :: ops) (.operator .and :: pend) true trivial
  refine ⟨top, [(.and, c.docs r)], leaves_single .and (.inl rfl) _, by rw [Infix.docs, ← hv]; rfl, ?_⟩
  rw [Infix.tokens, Link.tokens, ← List.append_assoc, List.foldlM_append, run_and hc hp]
  exact hrun

theorem runs_andNot {c : Infix .chain} {a : Infix .atom} (hc : Runs r c) (ha : Runs r a) :
    Runs r (.tied c .andNot a) := by
  intro ops pend aa hp
  obtain ⟨top, f, rfl, hv, hrun⟩ :=
    ha (c.docs r :: ops) (.operator .exclude :: pend) false trivial
  refine ⟨top, [(.exclude, c.docs r)], leaves_single .exclude (.inr rfl) _,
    by rw [Infix.docs, ← hv]; rfl, ?_⟩
  have hsplit : (Infix.tied c .andNot a).tokens =
      (c.tokens ++ [.operator .and]) ++ .operator .exclude :: a.tokens := by
    simp [Infix.tokens, Link.tokens]
  rw [hsplit, List.foldlM_append, run_and hc hp]
  show (Token.operator .exclude :: a.tokens).foldlM (step r)
    ⟨c.docs r :: ops, .operator .and :: pend, true⟩ = _
  rw [List.foldlM_cons, step_exclude_afterAnd]
  exact hrun

/-- A `not` applies the exclusions of the chain before it and waits inside its conjunctions. -/
theorem runs_not {c : Infix .chain} {a : Infix .atom} (hc : Runs r c) (ha : Runs r a) :
    Runs r (.tied c .not a) := by
  intro ops pend aa hp
  obtain ⟨top, f, ⟨tight, loose, rfl, ht, hl⟩, hv, hrun⟩ := hc ops pend aa hp
  -- only the exclusions bind as tightly as the new one; the conjunctions below them stay pending
  have htight : ∀ o ∈ tight, Operator.exclude.strength ≤ o.1.strength := by
    intro o ho; exact Nat.le_of_eq (by rw [ht o ho])
  have happ := applyTighter_frame (stops_exclude hp hl) (loose.operands ++ ops) tight top htight
  rw [← List.append_assoc, ← List.append_assoc, ← Frame.operands_append, ← Frame.pending_append] at happ
  obtain ⟨y, g, rfl, hy, hrun'⟩ := ha (tight.fill top :: (loose.operands ++ ops))
    (.operator .exclude :: (loose.pending ++ pend)) false trivial
  refine ⟨y, (.exclude, tight.fill top) :: loose, ?_, ?_, ?_⟩
  · exact ⟨[(.exclude, tight.fill top)], loose, rfl, by simp, hl⟩
  · rw [Frame.fill_cons, Infix.docs, ← hv, ← hy, Frame.fill_append]
    exact fill_diff loose _ _ hl
  · rw [Infix.tokens, Link.tokens, List.foldlM_append, hrun]
    show (Token.operator .exclude :: a.tokens).foldlM (step r) _ = _
    rw [List.foldlM_cons, step_operator r (by simp) happ]
    exact hrun'

theorem runs_only {c : Infix .chain} (hc : Runs r c) : Runs r (.only c) := by
  intro ops pend aa hp
  obtain ⟨top, f, -, hv, hrun⟩ := hc ops pend aa (Stops.of_le hp (by decide))
  exact ⟨top, f, trivial, hv, hrun⟩

/-- An `or` applies the whole frame before it; the frame of the next chain then stands over it. -/
theorem runs_either {e : Infix .expr} {c : Infix .chain} (he : Runs r e) (hc : Runs r c) :
    Runs r (.either e c) := by
  intro ops pend aa hp
  obtain ⟨top, f, -, hv, hrun⟩ := he ops pend aa hp
  have hle : ∀ o ∈ f, Operator.or.strength ≤ o.1.strength := fun o _ => by cases o.1 <;> decide
  obtain ⟨y, g, -, hy, hrun'⟩ := hc (e.docs r :: ops) (.operator .or :: pend) false
    (stops_operator (by decide) _)
  -- the stacks below the second frame are one more frame, whose only operator is the `or`
  refine ⟨y, g ++ [(.or, e.docs r)], trivial, ?_, ?_⟩
  · rw [Frame.fill_append, hy]; rfl
  · rw [Infix.tokens, List.foldlM_append, hrun]
    show (Token.operator .or :: c.tokens).foldlM (step r) _ = _
    rw [List.foldlM_cons, step_operator r (by simp) (applyTighter_frame hp ops f top hle), hv]
    show c.tokens.foldlM (step r) ⟨e.docs r :: ops, .operator .or :: pend, false⟩ = _
    rw [hrun']
    simp

/-- Every part runs into a frame that holds its documents. -/
theorem runs : ∀ {part : Infix.Part} (x : Infix part), Runs r x
  | _, .word w => runs_word w
  | _, .group e => runs_group (runs e)
  | _, .first a => runs_first (runs a)
  | _, .tied c .and a => runs_and (runs c) (runs a)
  | _, .tied c .not a => runs_not (runs c) (runs a)
  | _, .tied c .andNot a => runs_andNot (runs c) (runs a)
  | _, .only c => runs_only (runs c)
  | _, .either e c => runs_either (runs e) (runs c)

end Parts

/-- The tokens of an expression evaluate to its documents. -/
theorem evaluateTokens_tokens (r : String → DocSet) (e : Infix .expr) :
    evaluateTokens r e.tokens = .ok (e.docs r) := by
  obtain ⟨top, f, -, hv, hrun⟩ := runs (r := r) e [] [] false (stops_nil _)
  unfold evaluateTokens
  rw [hrun]
  show (applyAll (top :: (f.operands ++ [])) (f.pending ++ []) >>= answer) = _
  rw [List.append_nil f.pending, applyAll_frame [] f top, hv]
  rfl

/-! ## Words, and queries in infix form -/

theorem negated?_eq_some_iff (w x : String) : negated? w = some x ↔ x ≠ "" ∧ w = "not" ++ x := by
  have hw : w = "not" ++ x ↔ w.toList = 'n' :: 'o' :: 't' :: x.toList := by
    rw [← String.toList_inj, String.toList_append]; rfl
  have hx : x ≠ "" ↔ x.toList ≠ [] := by rw [Ne, Ne, ← String.toList_inj]; rfl
  rw [hw, hx]
  unfold negated?
  split
  · rename_i c rest heq
    rw [heq, Option.some.injEq, ← String.toList_inj, String.toList_ofList]
    constructor
    · intro h; rw [← h]; exact ⟨by simp, rfl⟩
    · rintro ⟨-, h⟩; simpa using h
  · rename_i hno
    constructor
    · intro h; cases h
    · rintro ⟨hne, h⟩
      obtain ⟨c, rest, hc⟩ := List.exists_cons_of_ne_nil hne
      rw [hc] at h
      exact absurd h (hno c rest)

/-- Whether a word asks for a document: with a `not` glued in front of a term, one that has been
seen and is not listed for the term, and else one that is listed for the word. -/
def WordSelects (p : Postings) (w : String) (d : DocId) : Prop :=
  (∃ x, x ≠ "" ∧ w = "not" ++ x ∧ d ∈ p.seen ∧ d ∉ p.docs x) ∨
    ((∀ x, w = "not" ++ x → x = "") ∧ d ∈ p.docs w)

theorem mem_resolve (p : Postings) (w : String) (d : DocId) : d ∈ resolve p w ↔ WordSelects p w d := by
  unfold resolve WordSelects
  cases hn : negated? w with
  | some x =>
    obtain ⟨hne, rfl⟩ := (negated?_eq_some_iff w x).1 hn
    simp only [Std.ExtTreeSet.mem_diff_iff]
    constructor
    · rintro ⟨h1, h2⟩; exact .inl ⟨x, hne, rfl, h1, h2⟩
    · rintro (⟨y, -, hy, h1, h2⟩ | ⟨h, -⟩)
      · obtain rfl : x = y := by simpa [← String.toList_inj] using hy
        exact ⟨h1, h2⟩
      · exact absurd (h x rfl) hne
  | none =>
    have hw : ∀ x, w = "not" ++ x → x = "" := by
      intro x h
      by_contra hne
      rw [(negated?_eq_some_iff w x).2 ⟨hne, h⟩] at hn; cases hn
    constructor
    · intro h; exact .inr ⟨hw, h⟩
    · rintro (⟨x, hne, h, -⟩ | ⟨-, h⟩)
      · exact absurd (hw x h) hne
      · exact h

/-- Infix semantics: a query whose tokens are those of an infix expression has an answer, and it
selects a document if and only if the document is in some chain of the expression, that is in the
chain's first atom, in every atom after `and`, and in none after `not` or `and not`. -/
theorem evaluate_selects (p : Postings) (query : String) (e : Infix .expr)
    (h : tokens query = e.tokens) :
    ∃ s, evaluate p query = .ok s ∧
      (∀ d, d ∈ s ↔ ∃ c ∈ e.chains, c.head.Selects (resolve p) d ∧
        ∀ t ∈ c.ties, (t.2.Selects (resolve p) d ↔ t.1 = .and)) ∧
      ∀ w d, (Infix.word w).Selects (resolve p) d ↔ WordSelects p w d := by
  refine ⟨e.docs (resolve p), ?_, fun d => ?_, fun w d => mem_resolve p w d⟩
  · unfold evaluate
    rw [h, evaluateTokens_tokens]
  · rw [Infix.mem_docs, Infix.selects_expr]
    simp only [Infix.selects_chain]

/-- An expression with all links, a parenthesis and a negated word. -/
def mixedExpression : Infix .expr :=
  .either (.only (.first (.word "dog")))
    (.tied (.tied (.first (.word "cat")) .andNot
      (.group (.only (.tied (.first (.word "notbird")) .not (.word "cow"))))) .and (.word "cat"))

/-- A query for `mixedExpression`. -/
def mixedQuery : String := "dog OR Cat and not (notbird NOT cow) and cat"

/-- Postings of three of the words in `mixedExpression`. -/
def mixedPostings : Postings := Postings.ofText "cat:1,2,3\ndog:2,4\nbird:3,4\n"

theorem evaluate_selects_mixed :
    tokens mixedQuery = mixedExpression.tokens ∧
      ∃ s, evaluate mixedPostings mixedQuery = .ok s ∧
        (∀ d, d ∈ s ↔ ∃ c ∈ mixedExpression.chains, c.head.Selects (resolve mixedPostings) d ∧
          ∀ t ∈ c.ties, (t.2.Selects (resolve mixedPostings) d ↔ t.1 = .and)) ∧
        ∀ w d, (Infix.word w).Selects (resolve mixedPostings) d ↔ WordSelects mixedPostings w d :=
  have htokens : tokens mixedQuery = mixedExpression.tokens := by decide +kernel
  ⟨htokens, evaluate_selects _ _ mixedExpression htokens⟩

end DocSearch.BoolQuery
