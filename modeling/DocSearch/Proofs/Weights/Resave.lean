/-
Weight records that are saved, read and saved again. The first save rounds the numbers to four
places; what is read from it is printed in the same digits, so the second save gives the same text,
whatever the size of the numbers.
-/
import DocSearch.Proofs.Binary64.Nearest
import DocSearch.Proofs.LemmaTable.Reload
import DocSearch.Proofs.Weights.Records

namespace DocSearch.WeightFile

open Text

/-- Whether a line has a term and the nearest decimals of two numbers. -/
def IsLineOf (r : WeightRecord Binary64) (line : String) : Prop :=
  ∃ idf tfidf, line = r.term ++ " " ++ idf ++ " " ++ tfidf ∧ r.idf.IsFixed 4 idf ∧
    r.tfidf.IsFixed 4 tfidf

/-- Whether a record has the term of another and the numbers that its decimals are read as. -/
structure IsRereadOf (r r' : WeightRecord Binary64) : Prop where
  term : r'.term = r.term
  idf : r.idf.IsReread 4 r'.idf
  tfidf : r.tfidf.IsReread 4 r'.tfidf

theorem isLineOf_recordText {r : WeightRecord Binary64} (hf : IsFinite r) :
    IsLineOf r (recordText r.term r.idf r.tfidf) :=
  ⟨_, _, rfl, Binary64.isFixed_fixed hf.1 (by decide), Binary64.isFixed_fixed hf.2 (by decide)⟩

/-- The record that is read from a line has the term of the line and the numbers of its decimals. -/
theorem exists_readRecord?_recordText {r : WeightRecord Binary64} (hterm : IsLowerWord r.term)
    (hf : IsFinite r) :
    ∃ r', readRecord? (recordText r.term r.idf r.tfidf).toList = some r' ∧ IsRereadOf r r' := by
  obtain ⟨i, y, hi, hy, hline⟩ := readRecord?_recordText_eq hf hterm.word
  exact ⟨_, hline, hterm.lower, Binary64.isReread_of_read?_fixed hf.1 (by decide) (by decide) hi,
    Binary64.isReread_of_read?_fixed hf.2 (by decide) (by decide) hy⟩

theorem IsRereadOf.recordText_eq {r r' : WeightRecord Binary64} (hf : IsFinite r)
    (h : IsRereadOf r r') : recordText r'.term r'.idf r'.tfidf = recordText r.term r.idf r.tfidf := by
  rw [recordText, recordText, h.term, h.idf.fixed_eq_fixed hf.1, h.tfidf.fixed_eq_fixed hf.2]

section Resave

variable {rs : List (WeightRecord Binary64)} (hterm : ∀ r ∈ rs, IsLowerWord r.term)
  (hf : ∀ r ∈ rs, IsFinite r)
include hterm hf

/-- For each record that was saved one is read, in order. -/
theorem forall₂_ofText_text : List.Forall₂ IsRereadOf rs (ofText (text rs)) := by
  have hnewline : ∀ r ∈ rs, '\n' ∉ r.term.toList := fun r hr hmem => by
    have hblank := (hterm r hr).word.2 _ hmem
    cases hblank
  rw [ofText_text hf hnewline]
  clear hnewline
  induction rs with
  | nil => exact .nil
  | cons r rs ih =>
    obtain ⟨hr, hrs⟩ := List.forall_mem_cons.1 hterm
    obtain ⟨hfr, hfrs⟩ := List.forall_mem_cons.1 hf
    obtain ⟨r', hline, hreread⟩ := exists_readRecord?_recordText hr hfr
    simp only [List.filterMap_cons, hline]
    exact .cons hreread (ih hrs hfrs)

/-- Whatever a record that is read shares with the one that was saved, all share in order. -/
theorem map_ofText_text {β : Type} (g : WeightRecord Binary64 → β)
    (hg : ∀ r ∈ rs, ∀ r', IsRereadOf r r' → g r' = g r) : (ofText (text rs)).map g = rs.map g := by
  have hall := forall₂_ofText_text hterm hf
  generalize ofText (text rs) = rs' at hall
  clear hterm hf
  induction hall with
  | nil => rfl
  | cons h _ ih =>
    obtain ⟨hfirst, hrest⟩ := List.forall_mem_cons.1 hg
    rw [List.map_cons, List.map_cons, hfirst _ h, ih hrest]

/-- Records whose terms are lowercase words and whose numbers are finite are written as lines, each with
the term and the nearest decimals with four fractional digits, which keep the signs. They are read back
from their text with the same terms in the same order, and with the numbers that are closest to those
decimals and keep the signs too; and the text of what was read is that text again. -/
theorem text_ofText_text :
    (∃ lines, text rs = unlines lines ∧ List.Forall₂ IsLineOf rs lines) ∧
    List.Forall₂ IsRereadOf rs (ofText (text rs)) ∧
    (ofText (text rs)).map (·.term) = rs.map (·.term) ∧ text (ofText (text rs)) = text rs := by
  refine ⟨⟨_, rfl, ?_⟩, forall₂_ofText_text hterm hf, ?_, ?_⟩
  · rw [List.forall₂_map_right_iff, List.forall₂_same]
    exact fun r hr => isLineOf_recordText (hf r hr)
  · exact map_ofText_text hterm hf _ fun _ _ _ h => h.term
  · exact congrArg unlines (map_ofText_text hterm hf _ fun r hr _ h => h.recordText_eq (hf r hr))

end Resave

/-- Ties of both kinds, a zero and a number that keep their sign where no digit is left, numbers
whose neighbours are about 10^-4 away, and one with hundreds of digits. -/
def mixedRecords : List (WeightRecord Binary64) :=
  [⟨"tie", .ofRatio false 1 32, .ofRatio true 3 32⟩,
    ⟨"zero", .negZero, .ofRatio true 1 (2 ^ 1074)⟩,
    ⟨"wide", .ofRatio false (2 ^ 53 - 1) (2 ^ 14), .ofRatio true (2 ^ 52 + 1) (2 ^ 13)⟩,
    ⟨"huge", .ofRatio false (10 ^ 300) 1, .ofRatio true (2 ^ 1024 - 2 ^ 971) 1⟩]

theorem text_ofText_text_mixed : (∀ r ∈ mixedRecords, IsLowerWord r.term) ∧
    (∀ r ∈ mixedRecords, IsFinite r) ∧
    (∃ lines, text mixedRecords = unlines lines ∧ List.Forall₂ IsLineOf mixedRecords lines) ∧
    List.Forall₂ IsRereadOf mixedRecords (ofText (text mixedRecords)) ∧
    (ofText (text mixedRecords)).map (·.term) = ["tie", "zero", "wide", "huge"] ∧
    text (ofText (text mixedRecords)) = text mixedRecords ∧
    text (mixedRecords.take 2) = "tie 0.0312 -0.0938\nzero -0.0000 -0.0000\n" := by
  have hterm : ∀ r ∈ mixedRecords, IsLowerWord r.term := by decide +kernel
  have hf : ∀ r ∈ mixedRecords, IsFinite r := by decide +kernel
  obtain ⟨hlines, hrecords, hterms, htext⟩ := text_ofText_text hterm hf
  exact ⟨hterm, hf, hlines, hrecords, hterms, htext, by decide +kernel⟩

end DocSearch.WeightFile
