/-
Following paths. Where a path leads is known from its parts alone; that it can be followed at all
depends on the directories on the way, so it still can be once there are more of them.
-/
import DocSearch.FileTree.Basic

namespace DocSearch.FileTree

/-! ## Steps -/

/-- The place that one part of a path leads to. -/
def advance (place : List String) (part : String) : List String :=
  if Path.isVoid part then place else if part = ".." then place.dropLast else place ++ [part]

@[simp] theorem node?_root (t : FileTree) : t.node? [] = some .directory := rfl

theorem node?_eq_getElem? {t : FileTree} {place : List String} (h : place ≠ []) :
    t.node? place = t.nodes[place]? := by
  unfold node?
  rw [if_neg (by simpa using h)]

theorem requireDirectory_eq_ok_iff {t : FileTree} {place : List String} {u : Unit} :
    t.requireDirectory place = .ok u ↔ t.node? place = some .directory := by
  unfold requireDirectory
  split <;> simp [*]

theorem follow_nil_eq_ok_iff {t : FileTree} {place q : List String} :
    t.follow place [] = .ok q ↔ q = place := by
  rw [follow, Except.ok.injEq, eq_comm]

theorem follow_cons (t : FileTree) (place : List String) (part : String) (rest : List String) :
    t.follow place (part :: rest) =
      (t.requireDirectory place).bind fun _ => t.follow (advance place part) rest := by
  rw [follow]
  congr 1
  funext _
  unfold advance
  split
  · rfl
  · split <;> rfl

theorem follow_cons_eq_ok_iff {t : FileTree} {place q rest : List String} {part : String} :
    t.follow place (part :: rest) = .ok q ↔
      t.node? place = some .directory ∧ t.follow (advance place part) rest = .ok q := by
  rw [follow_cons, ← requireDirectory_eq_ok_iff (u := ())]
  cases t.requireDirectory place with
  | error e => simp [Except.bind]
  | ok u => simp [Except.bind]

theorem follow_append_eq_ok_iff {t : FileTree} {b q : List String} : ∀ {a place : List String},
    t.follow place (a ++ b) = .ok q ↔ ∃ r, t.follow place a = .ok r ∧ t.follow r b = .ok q
  | [], place => by simp [follow]
  | part :: a, place => by
    simp only [List.cons_append, follow_cons_eq_ok_iff, follow_append_eq_ok_iff (a := a)]
    constructor
    · rintro ⟨hd, r, ha, hb⟩; exact ⟨r, ⟨hd, ha⟩, hb⟩
    · rintro ⟨r, ⟨hd, ha⟩, hb⟩; exact ⟨hd, r, ha, hb⟩

/-- Where a path leads is known from its parts. -/
theorem eq_foldl_advance_of_follow {t : FileTree} : ∀ {parts place q : List String},
    t.follow place parts = .ok q → q = parts.foldl advance place
  | [], _, _, h => follow_nil_eq_ok_iff.1 h
  | _ :: _, _, _, h => by
    rw [List.foldl_cons]
    exact eq_foldl_advance_of_follow (follow_cons_eq_ok_iff.1 h).2

/-- A path can still be followed in a tree that has the same directories and perhaps more. -/
theorem follow_mono {t t' : FileTree}
    (h : ∀ place, t.node? place = some .directory → t'.node? place = some .directory) :
    ∀ {parts place q : List String}, t.follow place parts = .ok q → t'.follow place parts = .ok q
  | [], _, _, hf => follow_nil_eq_ok_iff.2 (follow_nil_eq_ok_iff.1 hf)
  | _ :: _, place, _, hf => by
    obtain ⟨hd, hf⟩ := follow_cons_eq_ok_iff.1 hf
    exact follow_cons_eq_ok_iff.2 ⟨h place hd, follow_mono h hf⟩

end DocSearch.FileTree
