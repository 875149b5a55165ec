/-
The `k` first elements of a list in a given order, found without sorting the list.
-/
namespace DocSearch.Ranking

variable {β : Type}

/-- The elements that come before `pivot`. -/
def before (cmp : β → β → Ordering) (pivot : β) (xs : List β) : List β :=
  xs.filter fun x => cmp x pivot = .lt

/-- The elements that do not come before `pivot`. -/
def notBefore (cmp : β → β → Ordering) (pivot : β) (xs : List β) : List β :=
  xs.filter fun x => ¬ cmp x pivot = .lt

theorem length_before_le (cmp : β → β → Ordering) (pivot : β) (xs : List β) :
    (before cmp pivot xs).length ≤ xs.length := List.length_filter_le ..

theorem length_notBefore_le (cmp : β → β → Ordering) (pivot : β) (xs : List β) :
    (notBefore cmp pivot xs).length ≤ xs.length := List.length_filter_le ..

/-- The `k` first elements of a list by `cmp`, in no particular order. The list is split at its
head, and only the side that holds the last of them is split further. -/
def selectFirst (cmp : β → β → Ordering) : Nat → List β → List β
  | 0, _ => []
  | _, [] => []
  | k + 1, pivot :: rest =>
    let low := before cmp pivot rest
    if k < low.length then selectFirst cmp (k + 1) low
    else low ++ pivot :: selectFirst cmp (k - low.length) (notBefore cmp pivot rest)
termination_by _ xs => xs.length
decreasing_by
  · exact Nat.lt_succ_of_le (length_before_le ..)
  · exact Nat.lt_succ_of_le (length_notBefore_le ..)

end DocSearch.Ranking
