/-
The grammar of weight files. A line is a record if it begins with three words, which are a term in
any case and two finite numbers. What is behind them is ignored, and a line of any other form is
passed over, so the records of a text are those of its lines, in order.
-/
import DocSearch.Proofs.Text.Words
import DocSearch.WeightFile

namespace DocSearch.WeightFile

open Text

/-- Whether a text is read as a number, and that is finite. -/
def IsNumber (cs : List Char) (x : Binary64) : Prop :=
  Binary64.read? cs = some x ∧ x.isFinite = true

/-- Whether a line is a record: three words, the term in lowercase and two finite numbers, with blanks
between them, perhaps blanks before them, and behind them nothing or whatever begins with a blank. -/
def IsRecord (line : List Char) (r : WeightRecord Binary64) : Prop :=
  ∃ term idf tfidf behindTerm behindIdf behindTfidf, NextWord line term behindTerm ∧
    NextWord behindTerm idf behindIdf ∧ NextWord behindIdf tfidf behindTfidf ∧
    r.term.toList = lower term ∧ IsNumber idf r.idf ∧ IsNumber tfidf r.tfidf

/-- The records that a reader of lines accepts. -/
def Accepts (ls : List (List Char)) (rs : List (WeightRecord Binary64)) : Prop :=
  AcceptsLines IsRecord ls rs

variable {line : List Char} {r : WeightRecord Binary64}

theorem finite?_eq_some_iff {cs : List Char} {x : Binary64} : finite? cs = some x ↔ IsNumber cs x :=
  Option.filter_eq_some_iff

theorem three_words_iff {term idf tfidf : List Char} :
    (∃ rest, words line = term :: idf :: tfidf :: rest) ↔
      ∃ behindTerm behindIdf behindTfidf, NextWord line term behindTerm ∧
        NextWord behindTerm idf behindIdf ∧ NextWord behindIdf tfidf behindTfidf := by
  simp only [words_eq_cons_iff]
  constructor
  · rintro ⟨-, a, ha, b, hb, c, hc, -⟩
    exact ⟨a, b, c, ha, hb, hc⟩
  · rintro ⟨a, b, c, ha, hb, hc⟩
    exact ⟨words c, a, ha, b, hb, c, hc, rfl⟩

/-- The lines that are read are the records. -/
theorem readRecord?_eq_some_iff : readRecord? line = some r ↔ IsRecord line r := by
  unfold readRecord?
  constructor
  · intro h
    split at h
    · rename_i term idf tfidf rest hwords
      obtain ⟨i, hi, h⟩ := Option.bind_eq_some_iff.1 h
      obtain ⟨y, hy, h⟩ := Option.bind_eq_some_iff.1 h
      cases h
      obtain ⟨a, b, c, hterm, hidf, htfidf⟩ := three_words_iff.1 ⟨rest, hwords⟩
      exact ⟨term, idf, tfidf, a, b, c, hterm, hidf, htfidf, String.toList_ofList,
        finite?_eq_some_iff.1 hi, finite?_eq_some_iff.1 hy⟩
    · cases h
  · rintro ⟨term, idf, tfidf, a, b, c, hterm, hidf, htfidf, hlower, hi, hy⟩
    obtain ⟨rest, hwords⟩ := three_words_iff.2 ⟨a, b, c, hterm, hidf, htfidf⟩
    rw [hwords]
    simp only [finite?_eq_some_iff.2 hi, finite?_eq_some_iff.2 hy, ← hlower, String.ofList_toList]
    rfl

/-- A text has the records that are accepted of its lines, and no others are. -/
theorem accepts_stringLines_iff {s : String} {rs : List (WeightRecord Binary64)} :
    Accepts (stringLines s) rs ↔ ofText s = rs :=
  acceptsLines_iff fun _ _ => readRecord?_eq_some_iff

end DocSearch.WeightFile
