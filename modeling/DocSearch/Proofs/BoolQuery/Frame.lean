/-
Frames: the operators that an evaluation has pushed and not yet applied, each with its left operand.
Above any stacks, applying pending operators of a frame from the top fills the frame with the
topmost operand; what lies below the frame is not looked at.
-/
import DocSearch.BoolQuery.Evaluate

namespace DocSearch.BoolQuery

/-- Operators that wait for their right operand, innermost first, each with its left operand. -/
abbrev Frame := List (Operator × DocSet)

namespace Frame

/-- The operands of a frame, as they lie on the stack. -/
def operands (f : Frame) : List DocSet := f.map (·.2)

/-- The operators of a frame, as they lie on the stack. -/
def pending (f : Frame) : List Pending := f.map (.operator ·.1)

/-- What a frame selects when `x` is the operand that its innermost operator waits for. -/
def fill (f : Frame) (x : DocSet) : DocSet := f.foldl (fun x o => o.1.apply o.2 x) x

@[simp] theorem operands_nil : operands [] = [] := rfl

@[simp] theorem pending_nil : pending [] = [] := rfl

@[simp] theorem operands_cons (o : Operator × DocSet) (f : Frame) :
    operands (o :: f) = o.2 :: operands f := rfl

@[simp] theorem pending_cons (o : Operator × DocSet) (f : Frame) :
    pending (o :: f) = .operator o.1 :: pending f := rfl

@[simp] theorem operands_append (f g : Frame) : operands (f ++ g) = operands f ++ operands g :=
  List.map_append

@[simp] theorem pending_append (f g : Frame) : pending (f ++ g) = pending f ++ pending g :=
  List.map_append

@[simp] theorem fill_nil (x : DocSet) : fill [] x = x := rfl

@[simp] theorem fill_cons (o : Operator × DocSet) (f : Frame) (x : DocSet) :
    fill (o :: f) x = fill f (o.1.apply o.2 x) := rfl

@[simp] theorem fill_append (f g : Frame) (x : DocSet) : fill (f ++ g) x = fill g (fill f x) :=
  List.foldl_append

end Frame

/-- Whether no operator on top of a stack binds as tightly as `op`. -/
def Stops (op : Operator) (pend : List Pending) : Prop :=
  ∀ top rest, pend = .operator top :: rest → top.strength < op.strength

theorem stops_nil (op : Operator) : Stops op [] := fun _ _ h => by cases h

theorem stops_paren (op : Operator) (pend : List Pending) : Stops op (.paren :: pend) :=
  fun _ _ h => by cases h

theorem stops_operator {op top : Operator} (h : top.strength < op.strength) (pend : List Pending) :
    Stops op (.operator top :: pend) := by
  rintro _ _ ⟨⟩; exact h

theorem Stops.of_le {op op' : Operator} {pend : List Pending} (h : Stops op pend)
    (hle : op.strength ≤ op'.strength) : Stops op' pend :=
  fun top rest hp => Nat.lt_of_lt_of_le (h top rest hp) hle

theorem applyTighter_stops {op : Operator} {pend : List Pending} (h : Stops op pend)
    (ops : List DocSet) : applyTighter op ops pend = .ok (ops, pend) := by
  unfold applyTighter
  split
  · rename_i top rest
    rw [if_pos (h top rest rfl)]
  · rfl

/-- An operator applies a whole frame of operators that bind as tightly. -/
theorem applyTighter_frame {op : Operator} {pend : List Pending} (hp : Stops op pend)
    (ops : List DocSet) : ∀ (f : Frame) (x : DocSet), (∀ o ∈ f, op.strength ≤ o.1.strength) →
      applyTighter op (x :: (f.operands ++ ops)) (f.pending ++ pend) = .ok (f.fill x :: ops, pend)
  | [], x, _ => applyTighter_stops hp (x :: ops)
  | o :: f, x, h => by
    have ho : ¬ o.1.strength < op.strength := Nat.not_lt.2 (h o (List.mem_cons_self ..))
    have ih := applyTighter_frame hp ops f (o.1.apply o.2 x) fun o' h' => h o' (List.mem_cons_of_mem _ h')
    simp only [Frame.operands_cons, Frame.pending_cons, List.cons_append, applyTighter, if_neg ho]
    exact ih

/-- A closing parenthesis applies the whole frame above the opening one. -/
theorem closeParen_frame (ops : List DocSet) (pend : List Pending) : ∀ (f : Frame) (x : DocSet),
    closeParen (x :: (f.operands ++ ops)) (f.pending ++ .paren :: pend) = .ok (f.fill x :: ops, pend)
  | [], _ => rfl
  | o :: f, x => closeParen_frame ops pend f (o.1.apply o.2 x)

/-- The end of a query applies the whole frame. -/
theorem applyAll_frame (ops : List DocSet) : ∀ (f : Frame) (x : DocSet),
    applyAll (x :: (f.operands ++ ops)) f.pending = .ok (f.fill x :: ops)
  | [], _ => rfl
  | o :: f, x => applyAll_frame ops f (o.1.apply o.2 x)

/-! ## Single tokens -/

theorem step_closing (r : String → DocSet) {ops ops' : List DocSet} {pend pend' : List Pending}
    (aa : Bool) (h : closeParen ops pend = .ok (ops', pend')) :
    step r ⟨ops, pend, aa⟩ .closing = .ok ⟨ops', pend', false⟩ := by
  simp only [step, h]; rfl

/-- An operator is pushed over what stays of the stacks, unless it is the `not` of an `and not`. -/
theorem step_operator (r : String → DocSet) {op : Operator} {ops ops' : List DocSet}
    {pend pend' : List Pending} {aa : Bool} (hn : ¬ (op = .exclude ∧ aa = true))
    (h : applyTighter op ops pend = .ok (ops', pend')) :
    step r ⟨ops, pend, aa⟩ (.operator op) = .ok ⟨ops', .operator op :: pend', op = .and⟩ := by
  simp only [step, if_neg hn, h]; rfl

/-- The `not` of an `and not` takes the place of the `and`. -/
theorem step_exclude_afterAnd (r : String → DocSet) (ops : List DocSet) (op : Operator)
    (pend : List Pending) : step r ⟨ops, .operator op :: pend, true⟩ (.operator .exclude) =
      .ok ⟨ops, .operator .exclude :: pend, false⟩ := rfl

end DocSearch.BoolQuery
