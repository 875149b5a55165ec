/-
Fields of a record. A field is the numeral of a document with blanks around it, which a comma parts
from the next one; what stands between two commas is read by itself, whatever stands elsewhere.
-/
import Mathlib.Data.List.Forall2
import DocSearch.Proofs.Text.Lines
import DocSearch.Proofs.Text.Numeral

namespace DocSearch

open Text

theorem mapM_eq_some_iff {α β : Type} {f : α → Option β} : ∀ {l : List α} {bs : List β},
    l.mapM f = some bs ↔ List.Forall₂ (fun a b => f a = some b) l bs
  | [], bs => by
    rw [List.mapM_nil, List.forall₂_nil_left_iff, Option.pure_def, Option.some.injEq, eq_comm]
  | a :: l, bs => by
    rw [List.mapM_cons, List.forall₂_cons_left_iff]
    simp only [Option.bind_eq_bind, Option.bind_eq_some_iff, Option.pure_def, Option.some.injEq,
      mapM_eq_some_iff (l := l)]
    constructor
    · rintro ⟨b, hb, bs', hbs, rfl⟩; exact ⟨b, bs', hb, hbs, rfl⟩
    · rintro ⟨b, bs', hb, hbs, rfl⟩; exact ⟨b, hb, bs', hbs, rfl⟩

theorem exists_of_mem_forall₂ {α β : Type} {r : α → β → Prop} {l : List α} {bs : List β}
    (h : List.Forall₂ r l bs) {a : α} (ha : a ∈ l) : ∃ b, b ∈ bs ∧ r a b := by
  induction h with
  | nil => cases ha
  | @cons a' b' l bs hab _ ih =>
    rcases List.mem_cons.1 ha with rfl | ha
    · exact ⟨b', List.mem_cons_self, hab⟩
    · obtain ⟨b, hb, hr⟩ := ih ha
      exact ⟨b, List.mem_cons_of_mem _ hb, hr⟩

namespace DocId

/-- Whether a text is the numeral of a document with blanks around it. -/
def IsField (cs : List Char) (d : DocId) : Prop :=
  ∃ before numeral after, cs = before ++ numeral ++ after ∧ AllBlank before ∧ AllBlank after ∧
    Numeral.Writes numeral d.toNat

variable {cs : List Char} {d : DocId} {c : Char}

theorem isBlank_of_writes {n : Nat} (h : Numeral.Writes cs n) (hc : c ∈ cs) : isBlank c = false := by
  by_cases hplus : c = '+'
  · rw [hplus]; rfl
  · exact isBlank_eq_false_of_isDigit (h.isDigit hc hplus)

/-- Trimming leaves the numeral of a field. -/
theorem read?_trim_eq_some_iff : read? (trim cs) = some d ↔ IsField cs d := by
  rw [read?_eq_some_iff]
  constructor
  · intro h
    obtain ⟨before, after, hb, ha, hcs, -⟩ := exists_trim cs
    exact ⟨before, trim cs, after, hcs, hb, ha, h⟩
  · rintro ⟨before, numeral, after, rfl, hb, ha, h⟩
    rwa [trim_append_append_of_trimmed hb ha (trimmed_of_forall fun c hc => isBlank_of_writes h hc)]

/-- A field holds no mark. -/
theorem IsField.notMem (h : IsField cs d) (hc : isBlank c = false ∧ c.isDigit = false ∧ c ≠ '+') :
    c ∉ cs := by
  obtain ⟨before, numeral, after, rfl, hb, ha, hn⟩ := h
  rw [List.mem_append, List.mem_append]
  rintro ((hmem | hmem) | hmem)
  · exact hb.notMem hc.1 hmem
  · have hdigit := hn.isDigit hmem hc.2.2
    rw [hc.2.1] at hdigit
    cases hdigit
  · exact ha.notMem hc.1 hmem

end DocId

end DocSearch
