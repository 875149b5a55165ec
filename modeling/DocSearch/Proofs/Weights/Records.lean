/-
Weight records as lines. The line of a record with finite numbers is read back as the record with
its term in lowercase and its numbers as printed, unless there is a blank in the term: no line gives
a term with a blank. Read back, the records of a document make the vector that they describe exactly
if no term has a blank and terms that differ in case only have the same printed weight.
-/
import DocSearch.Proofs.Binary64.Fixed
import DocSearch.Proofs.Inserts
import DocSearch.Proofs.Text.Lowercase
import DocSearch.Proofs.Weights.Grammar

namespace DocSearch

namespace TermVector

variable {α : Type} {es : List (String × α)} {w : String} {y : α}

theorem mem_of_getElem?_ofEntries (h : (ofEntries es)[w]? = some y) : (w, y) ∈ es := by
  unfold ofEntries at h
  rcases mem_of_getElem?_foldl_insert Prod.fst Prod.snd h with ⟨e, he, rfl, rfl⟩ | h
  · exact he
  · rw [Std.ExtTreeMap.getElem?_empty] at h; cases h

theorem getElem?_ofEntries_of_mem (h : (w, y) ∈ es) (hs : ∀ e ∈ es, e.1 = w → e.2 = y) :
    (ofEntries es)[w]? = some y :=
  getElem?_foldl_insert_of_mem Prod.fst Prod.snd h hs

/-- The vector of records. -/
def ofRecords (rs : List (WeightRecord α)) : TermVector α :=
  ofEntries (rs.map fun r => (r.term, r.tfidf))

end TermVector

namespace WeightFile

open Text

/-! ## Lines -/

theorem toList_recordText (term : String) (idf tfidf : Binary64) :
    (recordText term idf tfidf).toList =
      term.toList ++ ' ' :: ((idf.fixed 4).toList ++ ' ' :: (tfidf.fixed 4).toList) := by
  simp [recordText]

/-- Whether both numbers of a record are finite. -/
def IsFinite (r : WeightRecord Binary64) : Prop := r.idf.isFinite = true ∧ r.tfidf.isFinite = true

instance (r : WeightRecord Binary64) : Decidable (IsFinite r) := inferInstanceAs (Decidable (_ ∧ _))

theorem finite?_fixed {x : Binary64} (h : x.isFinite = true) : ∃ y,
    Binary64.read? (x.fixed 4).toList = some y ∧ finite? (x.fixed 4).toList = some y := by
  obtain ⟨y, hy, hfinite⟩ := Binary64.read?_fixed h (by decide : 0 < 4)
  exact ⟨y, hy, by rw [finite?, hy, Option.filter_some, if_pos hfinite]⟩

theorem fixed_ne_nil {x : Binary64} (h : x.isFinite = true) : (x.fixed 4).toList ≠ [] := fun hnil => by
  obtain ⟨y, hy, -⟩ := finite?_fixed h
  rw [hnil] at hy
  cases hy

theorem notMem_fixed {x : Binary64} (h : x.isFinite = true) {c : Char} (hc : isBlank c = true) :
    c ∉ (x.fixed 4).toList := fun hmem => by
  rw [Binary64.isBlank_of_mem_fixed h hmem] at hc
  cases hc

theorem words_fixed {x : Binary64} (h : x.isFinite = true) :
    words (x.fixed 4).toList = [(x.fixed 4).toList] :=
  words_of_isWord ⟨fixed_ne_nil h, fun _ => Binary64.isBlank_of_mem_fixed h⟩

theorem words_recordText {r : WeightRecord Binary64} (h : IsFinite r) :
    words (recordText r.term r.idf r.tfidf).toList =
      words r.term.toList ++ [(r.idf.fixed 4).toList, (r.tfidf.fixed 4).toList] := by
  have hb : isBlank ' ' = true := by decide
  rw [toList_recordText, words_append_cons hb, words_append_cons hb, words_fixed h.1, words_fixed h.2]
  rfl

/-- The line of a record whose term is a word. -/
theorem readRecord?_recordText_eq {r : WeightRecord Binary64} (h : IsFinite r)
    (hword : IsWord r.term.toList) : ∃ i y, Binary64.read? (r.idf.fixed 4).toList = some i ∧
      Binary64.read? (r.tfidf.fixed 4).toList = some y ∧
        readRecord? (recordText r.term r.idf r.tfidf).toList = some ⟨lowerString r.term, i, y⟩ := by
  obtain ⟨i, hi, hfi⟩ := finite?_fixed h.1
  obtain ⟨y, hy, hfy⟩ := finite?_fixed h.2
  have hline := words_recordText h
  rw [words_of_isWord hword] at hline
  refine ⟨i, y, hi, hy, ?_⟩
  unfold readRecord?
  rw [hline]
  simp only [List.singleton_append, hfi, hfy]
  rfl

theorem readRecord?_recordText {r : WeightRecord Binary64} (h : IsFinite r)
    (hword : IsWord r.term.toList) : ∃ i y,
      Binary64.read? (r.tfidf.fixed 4).toList = some y ∧
        readRecord? (recordText r.term r.idf r.tfidf).toList = some ⟨lowerString r.term, i, y⟩ := by
  obtain ⟨i, y, -, hy, hline⟩ := readRecord?_recordText_eq h hword
  exact ⟨i, y, hy, hline⟩

theorem isBlank_of_readRecord? {line : List Char} {r : WeightRecord Binary64}
    (h : readRecord? line = some r) : ∀ c ∈ r.term.toList, isBlank c = false := by
  obtain ⟨term, _, _, _, _, _, hterm, -, -, hlower, -⟩ := readRecord?_eq_some_iff.1 h
  obtain ⟨-, -, -, hword, -⟩ := hterm
  rw [hlower]
  exact forall_isBlank_lower.2 hword.2

/-! ## Texts -/

theorem ofText_text {rs : List (WeightRecord Binary64)} (hf : ∀ r ∈ rs, IsFinite r)
    (hn : ∀ r ∈ rs, '\n' ∉ r.term.toList) :
    ofText (text rs) = rs.filterMap fun r => readRecord? (recordText r.term r.idf r.tfidf).toList := by
  have hblank : isBlank '\n' = true ∧ isBlank '\r' = true := by decide
  have hlines : ∀ l ∈ rs.map fun r => recordText r.term r.idf r.tfidf,
      '\n' ∉ l.toList ∧ l.toList.getLast? ≠ some '\r' := by
    intro l hl
    obtain ⟨r, hr, rfl⟩ := List.mem_map.1 hl
    rw [toList_recordText]
    constructor
    · simp [hn r hr, notMem_fixed (hf r hr).1 hblank.1, notMem_fixed (hf r hr).2 hblank.1]
    · -- the last character is one of the second number
      cases hlast : (r.tfidf.fixed 4).toList.getLast? with
      | none => exact absurd (List.getLast?_eq_none_iff.1 hlast) (fixed_ne_nil (hf r hr).2)
      | some c =>
        have hmem := List.mem_of_getLast? hlast
        rw [List.getLast?_append, List.getLast?_cons, List.getLast?_append, List.getLast?_cons, hlast]
        rintro ⟨⟩
        exact notMem_fixed (hf r hr).2 hblank.2 hmem
  unfold ofText text
  rw [stringLines_unlines (fun l hl => (hlines l hl).1) fun l hl => (hlines l hl).2, List.map_map,
    List.filterMap_map]
  rfl

/-! ## Vectors -/

/-- The vector that a document has when its records have been written and read. -/
def reload (rs : List (WeightRecord Binary64)) : TermVector Binary64 :=
  TermVector.ofRecords (ofText (text rs))

/-- Whether a vector has the printed weight of every record at its term in lowercase, and no other
entries. -/
def Describes (rs : List (WeightRecord Binary64)) (v : TermVector Binary64) : Prop :=
  (∀ r ∈ rs, v[lowerString r.term]? = Binary64.read? (r.tfidf.fixed 4).toList) ∧
    ∀ w y, v[w]? = some y → ∃ r ∈ rs, lowerString r.term = w

/-- Whether records keep apart as lines: no term has a blank, and terms that differ in case only have
the same printed weight. -/
def Apart (rs : List (WeightRecord Binary64)) : Prop :=
  (∀ r ∈ rs, ∀ c ∈ r.term.toList, isBlank c = false) ∧
    ∀ r ∈ rs, ∀ r' ∈ rs, lowerString r.term = lowerString r'.term →
      Binary64.read? (r.tfidf.fixed 4).toList = Binary64.read? (r'.tfidf.fixed 4).toList

instance (rs : List (WeightRecord Binary64)) : Decidable (Apart rs) :=
  -- through the characters of the term, not through all characters
  letI (r : WeightRecord Binary64) : Decidable (∀ c ∈ r.term.toList, isBlank c = false) :=
    List.decidableBAll _ _
  inferInstanceAs (Decidable (_ ∧ _))

section Reload

variable {rs : List (WeightRecord Binary64)} (hf : ∀ r ∈ rs, IsFinite r)
  (hw : ∀ r ∈ rs, r.term ≠ "" ∧ '\n' ∉ r.term.toList)
include hf hw

/-- The entries of the vector come from the lines that are records. -/
theorem mem_entries {e : String × Binary64} :
    e ∈ (ofText (text rs)).map (fun r => (r.term, r.tfidf)) ↔ ∃ r ∈ rs, ∃ r',
      readRecord? (recordText r.term r.idf r.tfidf).toList = some r' ∧ (r'.term, r'.tfidf) = e := by
  rw [ofText_text hf fun r hr => (hw r hr).2, List.mem_map]
  constructor
  · rintro ⟨r', hr', he⟩
    obtain ⟨r, hr, hline⟩ := List.mem_filterMap.1 hr'
    exact ⟨r, hr, r', hline, he⟩
  · rintro ⟨r, hr, r', hline, he⟩
    exact ⟨r', List.mem_filterMap.2 ⟨r, hr, hline⟩, he⟩

/-- Without blanks, every record is an entry, and there are no others. -/
theorem mem_entries_of_words (hword : ∀ r ∈ rs, ∀ c ∈ r.term.toList, isBlank c = false)
    {e : String × Binary64} : e ∈ (ofText (text rs)).map (fun r => (r.term, r.tfidf)) ↔
      ∃ r ∈ rs, lowerString r.term = e.1 ∧ Binary64.read? (r.tfidf.fixed 4).toList = some e.2 := by
  rw [mem_entries hf hw]
  refine exists_congr fun r => and_congr_right fun hr => ?_
  have hne : r.term.toList ≠ [] := fun hnil => (hw r hr).1 (String.toList_inj.1 hnil)
  obtain ⟨i, y, hy, hline⟩ := readRecord?_recordText (hf r hr) ⟨hne, hword r hr⟩
  rw [hline, hy]
  constructor
  · rintro ⟨r', hr', rfl⟩; cases hr'; exact ⟨rfl, rfl⟩
  · rintro ⟨hterm, hvalue⟩; exact ⟨_, rfl, Prod.ext hterm (Option.some.inj hvalue)⟩

/-- What the records of a document make after they have been written and read is what they describe
exactly if they keep apart. -/
theorem describes_reload_iff : Describes rs (reload rs) ↔ Apart rs := by
  constructor
  · rintro ⟨hentries, -⟩
    refine ⟨fun r hr => ?_, fun r hr r' hr' hlower => ?_⟩
    · -- the term in lowercase is the term of a line that was read, so it has no blank
      obtain ⟨y, hy, -⟩ := finite?_fixed (hf r hr).2
      have hentry := TermVector.mem_of_getElem?_ofEntries ((hentries r hr).trans hy)
      obtain ⟨_, -, r', hline, he⟩ := (mem_entries hf hw).1 hentry
      have hword := isBlank_of_readRecord? hline
      rw [(Prod.mk.inj he).1, lowerString, String.toList_ofList] at hword
      exact forall_isBlank_lower.1 hword
    · rw [← hentries r hr, ← hentries r' hr', hlower]
  · rintro ⟨hword, hsame⟩
    constructor
    · -- all entries for a term agree, so it does not matter which is the last one
      intro r hr
      obtain ⟨y, hy, -⟩ := finite?_fixed (hf r hr).2
      rw [hy]
      refine TermVector.getElem?_ofEntries_of_mem ((mem_entries_of_words hf hw hword).2 ⟨r, hr, rfl, hy⟩)
        fun e he hterm => ?_
      obtain ⟨r', hr', hlower, hvalue⟩ := (mem_entries_of_words hf hw hword).1 he
      have heq := hsame r' hr' r hr (hlower.trans hterm)
      exact Option.some.inj (hvalue.symm.trans (heq.trans hy))
    · intro w y hy
      obtain ⟨r, hr, hlower, -⟩ :=
        (mem_entries_of_words hf hw hword).1 (TermVector.mem_of_getElem?_ofEntries hy)
      exact ⟨r, hr, hlower⟩

end Reload

end WeightFile

end DocSearch
