/-
Numbers with a fixed number of fractional digits. The text of a finite number is digits around a
point, perhaps behind a sign, without blanks; it is read as the number nearest to the decimal that
it writes, and that is a finite number again.
-/
import Mathlib.Data.List.TakeWhile
import DocSearch.Binary64.Decimal
import DocSearch.Binary64.Format
import DocSearch.Proofs.Binary64.Ratio
import DocSearch.Proofs.Text.Numeral

namespace DocSearch

/-! ## Digits around a point -/

theorem toList_paddedDigits (width n : Nat) : (paddedDigits width n).toList =
    List.replicate (width - n.repr.length) '0' ++ n.repr.toList := by
  simp [paddedDigits]

theorem isDigit_of_mem_paddedDigits {width n : Nat} {c : Char}
    (h : c ∈ (paddedDigits width n).toList) : c.isDigit = true := by
  rw [toList_paddedDigits] at h
  rcases List.mem_append.1 h with h | h
  · rw [(List.mem_replicate.1 h).2]; rfl
  · exact Numeral.isDigit_of_mem_repr h

theorem length_paddedDigits {width n : Nat} (hw : 0 < width) (hn : n < 10 ^ width) :
    (paddedDigits width n).toList.length = width := by
  have hlength := (Nat.length_repr_le_iff hw).2 hn
  rw [toList_paddedDigits, List.length_append, List.length_replicate, String.length_toList]
  omega

theorem ofDigitChars_paddedDigits (width n : Nat) :
    Nat.ofDigitChars 10 (paddedDigits width n).toList 0 = n := by
  rw [toList_paddedDigits, Nat.ofDigitChars_append, Nat.ofDigitChars_replicate_zero, Nat.mul_zero,
    Nat.toList_repr, Nat.ofDigitChars_ten_toDigits]

theorem toList_fixedPoint (places n : Nat) : (fixedPoint places n).toList =
    (n / 10 ^ places).repr.toList ++ '.' :: (paddedDigits places (n % 10 ^ places)).toList := by
  simp [fixedPoint]

theorem isDigit_of_mem_fixedPoint {places n : Nat} {c : Char} (h : c ∈ (fixedPoint places n).toList) :
    c.isDigit = true ∨ c = '.' := by
  rw [toList_fixedPoint, List.mem_append, List.mem_cons] at h
  rcases h with h | h | h
  · exact .inl (Numeral.isDigit_of_mem_repr h)
  · exact .inr h
  · exact .inl (isDigit_of_mem_paddedDigits h)

/-- The digits on both sides of the point write the number that was divided. -/
theorem ofDigitChars_fixedPoint {places n : Nat} (hp : 0 < places) :
    Nat.ofDigitChars 10
      ((n / 10 ^ places).repr.toList ++ (paddedDigits places (n % 10 ^ places)).toList) 0 = n := by
  rw [Nat.ofDigitChars_append, Nat.ofDigitChars_eq_ofDigitChars_zero, ofDigitChars_paddedDigits,
    length_paddedDigits hp (Nat.mod_lt _ (Nat.pow_pos (by decide))), Nat.toList_repr,
    Nat.ofDigitChars_ten_toDigits, Nat.div_add_mod]

namespace Binary64

/-! ## Reading -/

theorem isDigit_eq (c : Char) : isDigit c = c.isDigit := by
  rw [Bool.eq_iff_iff, Numeral.isDigit_iff, isDigit, Bool.and_eq_true, decide_eq_true_eq,
    decide_eq_true_eq]

theorem unsigned?_of_digits {negative : Bool} {whole fraction : List Char} (hne : whole ≠ [])
    (hw : ∀ c ∈ whole, c.isDigit = true) (hf : ∀ c ∈ fraction, c.isDigit = true) :
    unsigned? negative (whole ++ '.' :: fraction) =
      some (ofDecimal negative (Nat.ofDigitChars 10 (whole ++ fraction) 0) (-fraction.length)) := by
  have hw' : ∀ c ∈ whole, isDigit c = true := fun c hc => by rw [isDigit_eq, hw c hc]
  have hf' : ∀ c ∈ fraction, isDigit c = true := fun c hc => by rw [isDigit_eq, hf c hc]
  have hdot : ¬ isDigit '.' = true := by decide
  have hall : ∀ c ∈ whole ++ fraction, c.isDigit = true := fun c hc =>
    (List.mem_append.1 hc).elim (hw c) (hf c)
  have hdigits : digitValue (whole ++ fraction) = Nat.ofDigitChars 10 (whole ++ fraction) 0 := by
    rw [digitValue, Numeral.digits?_of_isDigit (by simp [hne]) hall, Option.getD_some]
  unfold unsigned?
  rw [List.takeWhile_append_of_pos hw', List.dropWhile_append_of_pos hw',
    List.takeWhile_cons_of_neg hdot, List.dropWhile_cons_of_neg hdot, List.append_nil]
  simp only [List.takeWhile_eq_self_iff.2 hf', List.dropWhile_eq_nil_iff.2 hf', hdigits]
  simp [hne, exponent?]

/-- Text with a point names neither an infinity nor a non-number. -/
theorem lowerAscii_ne_of_mem_dot {cs : List Char} (h : '.' ∈ cs) {name : String}
    (hname : '.' ∉ name.toList) : lowerAscii cs ≠ name := by
  rintro rfl
  apply hname
  unfold lowerAscii
  rw [String.toList_ofList]
  exact List.mem_map.2 ⟨'.', h, by decide⟩

/-- Text that starts with a digit and holds a point is read as digits, as it is or behind a sign. -/
theorem read?_of_sign {c : Char} {cs : List Char} (hc : c.isDigit = true) (hdot : '.' ∈ c :: cs)
    (negative : Bool) : read? ((if negative then ['-'] else []) ++ c :: cs) =
      unsigned? negative (c :: cs) := by
  have hname : ∀ name : String, '.' ∉ name.toList → lowerAscii (c :: cs) ≠ name := fun _ =>
    lowerAscii_ne_of_mem_dot hdot
  unfold read?
  cases negative
  · simp only [Bool.false_eq_true, if_false, List.nil_append]
    split
    · rename_i hsign; cases hsign; cases hc
    · rename_i hsign; cases hsign; cases hc
    · rw [if_neg (not_or.2 ⟨hname "inf" (by decide), hname "infinity" (by decide)⟩),
        if_neg (hname "nan" (by decide))]
  · simp only [if_true, List.singleton_append]
    rw [if_neg (not_or.2 ⟨hname "inf" (by decide), hname "infinity" (by decide)⟩),
      if_neg (hname "nan" (by decide))]

theorem read?_fixedPoint {places n : Nat} (hp : 0 < places) (negative : Bool) :
    read? ((if negative then "-" else "") ++ fixedPoint places n).toList =
      some (ofDecimal negative n (-places)) := by
  obtain ⟨c, cs, hcs⟩ := List.exists_cons_of_ne_nil (Numeral.repr_ne_nil (n / 10 ^ places))
  have hc : c.isDigit = true := Numeral.isDigit_of_mem_repr (hcs ▸ List.mem_cons_self)
  have htext : ((if negative then "-" else "") ++ fixedPoint places n).toList =
      (if negative then ['-'] else []) ++ (fixedPoint places n).toList := by
    cases negative <;> simp
  rw [htext, toList_fixedPoint, hcs, List.cons_append, read?_of_sign hc (by simp), ← List.cons_append,
    ← hcs, unsigned?_of_digits (Numeral.repr_ne_nil _) (fun _ => Numeral.isDigit_of_mem_repr)
      (fun _ => isDigit_of_mem_paddedDigits), ofDigitChars_fixedPoint hp,
    length_paddedDigits hp (Nat.mod_lt _ (Nat.pow_pos (by decide)))]

/-! ## Finite numbers -/

theorem mul_ten_pow_lt {m k : Nat} (h : m < 2 ^ k) (places : Nat) :
    m * 10 ^ places < 2 ^ (k + 4 * places) :=
  calc m * 10 ^ places ≤ m * (2 ^ 4) ^ places :=
        Nat.mul_le_mul_left _ (Nat.pow_le_pow_left (by decide) _)
    _ < 2 ^ k * (2 ^ 4) ^ places := Nat.mul_lt_mul_of_pos_right h (Nat.pow_pos (by decide))
    _ = 2 ^ (k + 4 * places) := by rw [← Nat.pow_mul, ← Nat.pow_add]

/-- The greatest finite number, with decimal places, is read as a finite number, and so is all below. -/
theorem isFinite_ofDecimal {negative : Bool} {places n : Nat} (h : n ≤ maxFinite * 10 ^ places) :
    (ofDecimal negative n (-places)).isFinite = true := by
  unfold ofDecimal
  simp only
  split
  · exact isFinite_ofMagnitude (by decide)
  · rename_i hn
    split
    · rename_i hlarge
      have hlog := (Nat.log2_lt hn).2 (h.trans_lt (mul_ten_pow_lt maxFinite_lt places))
      omega
    · split
      · exact isFinite_ofMagnitude (by decide)
      · refine isFinite_ofRatio (Nat.pow_pos (by decide)) ?_
        rw [Int.toNat_neg_natCast, Int.neg_neg, Int.toNat_natCast]
        exact (Nat.mul_one n).trans_le h

theorem decode_le {x : Binary64} (h : x.isFinite = true) :
    x.decode.1 ≤ 2 ^ 53 - 1 ∧ x.decode.2 ≤ 971 := by
  have hm : x.magnitude < 0x7FF0000000000000 := of_decide_eq_true h
  unfold decode
  simp only
  split
  · constructor <;> simp only <;> omega
  · constructor <;> simp only <;> omega

theorem scaleTwo_le {m : Nat} {e : Int} (hm : m ≤ 2 ^ 53 - 1) (he : e ≤ 971) :
    0 < (scaleTwo m e).2 ∧ (scaleTwo m e).1 ≤ maxFinite * (scaleTwo m e).2 := by
  have hden : 0 < (scaleTwo m e).2 := Nat.pow_pos (by decide)
  refine ⟨hden, (Nat.mul_le_mul hm ?_).trans (Nat.le_mul_of_pos_right _ hden)⟩
  apply Nat.pow_le_pow_right (by decide)
  omega

/-- The whole number whose digits are printed. -/
def printed (places : Nat) (x : Binary64) : Nat :=
  roundDiv ((scaleTwo x.decode.1 x.decode.2).1 * 10 ^ places) (scaleTwo x.decode.1 x.decode.2).2

theorem printed_le {x : Binary64} (h : x.isFinite = true) (places : Nat) :
    printed places x ≤ maxFinite * 10 ^ places := by
  obtain ⟨hden, hnum⟩ := scaleTwo_le (decode_le h).1 (decode_le h).2
  refine roundDiv_le hden ?_
  calc (scaleTwo x.decode.1 x.decode.2).1 * 10 ^ places
      ≤ maxFinite * (scaleTwo x.decode.1 x.decode.2).2 * 10 ^ places := Nat.mul_le_mul_right _ hnum
    _ = maxFinite * 10 ^ places * (scaleTwo x.decode.1 x.decode.2).2 := by
      rw [Nat.mul_assoc, Nat.mul_assoc, Nat.mul_comm _ (10 ^ places)]

theorem fixed_eq {x : Binary64} (h : x.isFinite = true) (places : Nat) :
    x.fixed places = (if x.isNegative then "-" else "") ++ fixedPoint places (printed places x) := by
  have hnan : ¬ x.isNaN = true := fun hnan => by
    have hlt := of_decide_eq_true hnan
    have hgt := of_decide_eq_true h
    omega
  unfold fixed textWith
  rw [if_neg hnan]
  simp only [h, if_true]
  rfl

theorem fixed_of_isFinite {x : Binary64} (h : x.isFinite = true) (places : Nat) :
    ∃ n ≤ maxFinite * 10 ^ places,
      x.fixed places = (if x.isNegative then "-" else "") ++ fixedPoint places n :=
  ⟨_, printed_le h places, fixed_eq h places⟩

/-- The text of a finite number is read as a finite number. -/
theorem read?_fixed {x : Binary64} (h : x.isFinite = true) {places : Nat} (hp : 0 < places) :
    ∃ y, read? (x.fixed places).toList = some y ∧ y.isFinite = true := by
  obtain ⟨n, hn, htext⟩ := fixed_of_isFinite h places
  rw [htext, read?_fixedPoint hp]
  exact ⟨_, rfl, isFinite_ofDecimal hn⟩

theorem isBlank_of_mem_fixed {x : Binary64} (h : x.isFinite = true) {places : Nat} {c : Char}
    (hc : c ∈ (x.fixed places).toList) : Text.isBlank c = false := by
  obtain ⟨n, -, htext⟩ := fixed_of_isFinite h places
  rw [htext, String.toList_append, List.mem_append] at hc
  rcases hc with hc | hc
  · split at hc
    · cases List.mem_singleton.1 hc; decide
    · cases hc
  · rcases isDigit_of_mem_fixedPoint hc with hc | rfl
    · exact Text.isBlank_eq_false_of_isDigit hc
    · decide

end Binary64

end DocSearch
