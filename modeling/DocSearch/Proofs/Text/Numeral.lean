/-
Decimal numerals. What is read as a number is digits with or without a plus sign, and nothing else.
The digits of a number read as that number, so an identifier is read from its own text; and as digits
are neither blanks nor marks, the text stands whole in any record.
-/
import DocSearch.DocId
import DocSearch.Proofs.Text.Trim

namespace DocSearch

namespace Text

theorem isBlank_eq_false_of_isDigit {c : Char} (h : c.isDigit = true) : isBlank c = false := by
  have h48 : 48 ≤ c.toNat ∧ c.toNat ≤ 57 := by
    simpa [Char.isDigit, UInt32.le_iff_toNat_le] using h
  have h9 : ¬ c.toNat ≤ 0xD := by omega
  have h20 : ¬ c.toNat ≤ 0x20 := by omega
  have h85 : c.toNat ≤ 0x85 := by omega
  have hlo : ¬ 0x85 ≤ c.toNat := by omega
  simp only [isBlank, blankRanges, CharRanges.covers, if_neg h9, if_neg h20, if_pos h85, hlo,
    decide_false]

end Text

namespace Numeral

theorem isDigit_iff (c : Char) : c.isDigit = true ↔ '0' ≤ c ∧ c ≤ '9' := by
  simp only [Char.isDigit, Bool.and_eq_true, decide_eq_true_eq]
  exact Iff.rfl

/-- Whether a text is a numeral of a number: digits, with or without a plus sign. -/
def Writes (cs : List Char) (n : Nat) : Prop :=
  ∃ digits, (cs = digits ∨ cs = '+' :: digits) ∧ digits ≠ [] ∧ (∀ c ∈ digits, c.isDigit = true) ∧
    Nat.ofDigitChars 10 digits 0 = n

/-- Digits that are not empty read as the number that they write. -/
theorem digits?_of_isDigit {cs : List Char} (hne : cs ≠ []) (h : ∀ c ∈ cs, c.isDigit = true) :
    digits? cs = some (Nat.ofDigitChars 10 cs 0) := by
  have hall : (!cs.isEmpty && cs.all fun c => '0' ≤ c && c ≤ '9') = true := by
    simp only [Bool.and_eq_true, Bool.not_eq_true', List.isEmpty_eq_false_iff, List.all_eq_true,
      decide_eq_true_eq]
    exact ⟨hne, fun c hc => (isDigit_iff c).1 (h c hc)⟩
  rw [digits?, if_pos hall, Nat.ofDigitChars_eq_foldl]

theorem isDigit_of_mem_repr {n : Nat} {c : Char} (h : c ∈ n.repr.toList) : c.isDigit = true := by
  rw [Nat.toList_repr] at h
  exact Nat.isDigit_of_mem_toDigits (by decide) (by decide) h

theorem isDigit_of_digits? {cs : List Char} {n : Nat} (h : digits? cs = some n) {c : Char}
    (hc : c ∈ cs) : c.isDigit = true := by
  obtain ⟨hall, -⟩ := Option.ite_none_right_eq_some.1 h
  rw [Bool.and_eq_true, List.all_eq_true] at hall
  have hdigit := hall.2 c hc
  rw [Bool.and_eq_true, decide_eq_true_eq, decide_eq_true_eq] at hdigit
  exact (isDigit_iff c).2 hdigit

theorem digits?_eq_some_iff {cs : List Char} {n : Nat} : digits? cs = some n ↔
    cs ≠ [] ∧ (∀ c ∈ cs, c.isDigit = true) ∧ Nat.ofDigitChars 10 cs 0 = n := by
  constructor
  · intro h
    have hne : cs ≠ [] := by rintro rfl; cases h
    have hall : ∀ c ∈ cs, c.isDigit = true := fun c => isDigit_of_digits? h
    rw [digits?_of_isDigit hne hall] at h
    exact ⟨hne, hall, Option.some.inj h⟩
  · rintro ⟨hne, hall, rfl⟩
    exact digits?_of_isDigit hne hall

/-- The texts that are read are the numerals of the numbers below the bound. -/
theorem below?_eq_some_iff {bound n : Nat} {cs : List Char} :
    below? bound cs = some n ↔ Writes cs n ∧ n < bound := by
  unfold below? Writes
  simp only [Option.filter_eq_some_iff, decide_eq_true_eq, digits?_eq_some_iff]
  refine and_congr_left fun _ => ?_
  split
  · rename_i rest
    constructor
    · exact fun h => ⟨rest, .inr rfl, h⟩
    · rintro ⟨digits, rfl | hcs, h⟩
      · -- a plus sign is no digit
        cases h.2.1 '+' List.mem_cons_self
      · exact (List.cons.inj hcs).2 ▸ h
  · rename_i hplus
    constructor
    · exact fun h => ⟨cs, .inl rfl, h⟩
    · rintro ⟨digits, rfl | rfl, h⟩
      · exact h
      · exact (hplus digits rfl).elim

theorem Writes.ne_nil {cs : List Char} {n : Nat} (h : Writes cs n) : cs ≠ [] := by
  obtain ⟨digits, rfl | rfl, hne, -⟩ := h
  · exact hne
  · exact List.cons_ne_nil _ _

/-- A numeral is written in digits and perhaps a plus sign. -/
theorem Writes.isDigit {cs : List Char} {n : Nat} (h : Writes cs n) {c : Char} (hc : c ∈ cs)
    (hplus : c ≠ '+') : c.isDigit = true := by
  obtain ⟨digits, rfl | rfl, -, hall, -⟩ := h
  · exact hall c hc
  · exact hall c ((List.mem_cons.1 hc).resolve_left hplus)

theorem repr_ne_nil (n : Nat) : n.repr.toList ≠ [] := by
  rw [Nat.toList_repr]; exact Nat.toDigits_ne_nil

theorem digits?_repr (n : Nat) : digits? n.repr.toList = some n := by
  rw [digits?_of_isDigit (repr_ne_nil n) fun c hc => isDigit_of_mem_repr hc, Nat.toList_repr,
    Nat.ofDigitChars_ten_toDigits]

/-- A number below the bound is read from its digits; they start with no sign. -/
theorem below?_repr {bound n : Nat} (h : n < bound) : below? bound n.repr.toList = some n := by
  unfold below?
  split
  · rename_i rest heq
    have hplus : '+'.isDigit = true := isDigit_of_mem_repr (n := n) (by rw [heq]; exact List.mem_cons_self)
    cases hplus
  · simp only [digits?_repr]
    simp [h]

end Numeral

namespace DocId

theorem isDigit_of_mem_text {d : DocId} {c : Char} (h : c ∈ d.text.toList) : c.isDigit = true :=
  Numeral.isDigit_of_mem_repr h

theorem notMem_text {d : DocId} {c : Char} (hc : c.isDigit = false) : c ∉ d.text.toList := fun h => by
  rw [isDigit_of_mem_text h] at hc; cases hc

/-- The texts that are read are the numerals of identifiers. -/
theorem read?_eq_some_iff {cs : List Char} {d : DocId} :
    read? cs = some d ↔ Numeral.Writes cs d.toNat := by
  unfold read?
  simp only [Option.map_eq_some_iff, Numeral.below?_eq_some_iff]
  constructor
  · rintro ⟨n, ⟨hn, hlt⟩, rfl⟩
    rwa [UInt32.toNat_ofNat_of_lt' hlt]
  · exact fun h => ⟨d.toNat, ⟨h, d.toNat_lt⟩, UInt32.ofNat_toNat⟩

theorem notMem_of_read? {cs : List Char} {d : DocId} (h : read? cs = some d) {c : Char}
    (hc : c.isDigit = false) (hplus : c ≠ '+') : c ∉ cs := fun hmem => by
  rw [(read?_eq_some_iff.1 h).isDigit hmem hplus] at hc
  cases hc

/-- An identifier is read from its own text. -/
theorem read?_text (d : DocId) : read? d.text.toList = some d := by
  unfold read? text
  rw [Numeral.below?_repr d.toNat_lt, Option.map_some, UInt32.ofNat_toNat]

theorem read?_trim_text (d : DocId) : read? (Text.trim d.text.toList) = some d := by
  rw [Text.trim_of_forall fun c hc => Text.isBlank_eq_false_of_isDigit (isDigit_of_mem_text hc),
    read?_text]

end DocId

end DocSearch
