/-
Lemma tables as text. A line is read as the lowercase of its words, so every table that was read has
words in lowercase only, and at least one lemma for each token. Of all tables it is these that are
read back from their own text.
-/
import Mathlib.Data.List.Basic
import DocSearch.LemmaTable
import DocSearch.Proofs.Inserts
import DocSearch.Proofs.Text.Lowercase
import DocSearch.Proofs.Text.Lowercased

namespace DocSearch

open Text

/-- Whether a string is a single word in lowercase. -/
structure IsLowerWord (w : String) : Prop where
  word : IsWord w.toList
  lower : lowerString w = w

instance (w : String) : Decidable (IsLowerWord w) :=
  letI : Decidable (∀ c ∈ w.toList, isBlank c = false) := List.decidableBAll _ _
  decidable_of_iff ((w.toList ≠ [] ∧ ∀ c ∈ w.toList, isBlank c = false) ∧ lowerString w = w)
    ⟨fun h => ⟨h.1, h.2⟩, fun h => ⟨h.word, h.lower⟩⟩

theorem isLowerWord_lowerString {w : String} (h : IsWord w.toList) : IsLowerWord (lowerString w) where
  word := by
    rw [lowerString, String.toList_ofList]
    exact isWord_lower.2 h
  lower := by rw [lowerString, lowerString, String.toList_ofList, lower_lower]

namespace LemmaTable

variable {t : LemmaTable} {token : String} {lemmas : List String}

/-! ## Lines -/

/-- Whether a token and its lemmas can stand in a line of their own. -/
structure Writable (token : String) (lemmas : List String) : Prop where
  ne_nil : lemmas ≠ []
  words : ∀ w ∈ token :: lemmas, IsLowerWord w

theorem writable_of_readRecord? {line : List Char} (h : readRecord? line = some (token, lemmas)) :
    Writable token lemmas := by
  unfold readRecord? at h
  split at h
  · rename_i token' l ls hwords
    cases h
    refine ⟨List.cons_ne_nil _ _, fun w hw => ?_⟩
    rw [← hwords] at hw
    obtain ⟨cs, hcs, rfl⟩ := List.mem_map.1 hw
    have hlower := isLowerWord_lowerString (w := .ofList cs)
    rw [lowerString, String.toList_ofList] at hlower
    exact hlower (isWord_of_mem_words hcs)
  · cases h

theorem toList_recordText (h : lemmas ≠ []) :
    (recordText token lemmas).toList = [' '].intercalate ((token :: lemmas).map String.toList) := by
  obtain ⟨l, ls, rfl⟩ := List.exists_cons_of_ne_nil h
  simp only [recordText, String.toList_append, String.toList_intercalate, List.map_cons,
    List.intercalate_cons_cons]
  rfl

namespace Writable

variable (h : Writable token lemmas)
include h

theorem readRecord?_recordText :
    readRecord? (recordText token lemmas).toList = some (token, lemmas) := by
  have hwords : Text.words (recordText token lemmas).toList = (token :: lemmas).map String.toList := by
    rw [toList_recordText h.ne_nil]
    refine words_intercalate fun cs hcs => ?_
    obtain ⟨w, hw, rfl⟩ := List.mem_map.1 hcs
    exact (h.words w hw).word
  have hlower : (Text.words (recordText token lemmas).toList).map (fun w => String.ofList (lower w)) =
      token :: lemmas := by
    rw [hwords, List.map_map]
    exact (List.map_congr_left fun w hw => (h.words w hw).lower).trans (List.map_id' _)
  obtain ⟨l, ls, rfl⟩ := List.exists_cons_of_ne_nil h.ne_nil
  unfold readRecord?
  rw [hlower]

theorem notMem_recordText {c : Char} (hc : isBlank c = true) (hspace : c ≠ ' ') :
    c ∉ (recordText token lemmas).toList := fun hmem => by
  rw [toList_recordText h.ne_nil] at hmem
  obtain ⟨l, hl, hmem⟩ := (eq_or_mem_of_mem_intercalate hmem).resolve_left hspace
  obtain ⟨w, hw, rfl⟩ := List.mem_map.1 hl
  rw [(h.words w hw).word.2 c hmem] at hc
  cases hc

end Writable

/-! ## Tables -/

/-- The records of a text, in order. -/
def records (s : String) : List (String × List String) := (stringLines s).filterMap readRecord?

theorem ofText_eq_foldl (s : String) :
    ofText s = (records s).foldl (fun t r => t.insert r.1 r.2) ∅ := by
  rw [records, List.foldl_filterMap, ofText]
  congr 1
  funext t line
  unfold insertLine
  cases readRecord? line <;> rfl

theorem writable_of_ofText {s : String} (h : (ofText s)[token]? = some lemmas) :
    Writable token lemmas := by
  rw [ofText_eq_foldl] at h
  rcases mem_of_getElem?_foldl_insert Prod.fst Prod.snd h with ⟨r, hr, rfl, rfl⟩ | h
  · obtain ⟨line, -, hline⟩ := List.mem_filterMap.1 hr
    exact writable_of_readRecord? hline
  · rw [Std.ExtTreeMap.getElem?_empty] at h; cases h

theorem records_text (h : ∀ r ∈ t.toList, Writable r.1 r.2) : records t.text = t.toList := by
  have hblank : ∀ c, isBlank c = true → c ≠ ' ' →
      ∀ l ∈ t.toList.map fun r => recordText r.1 r.2, c ∉ l.toList := by
    intro c hc hspace l hl
    obtain ⟨r, hr, rfl⟩ := List.mem_map.1 hl
    exact (h r hr).notMem_recordText hc hspace
  unfold records text
  rw [stringLines_unlines (hblank '\n' rfl (by decide)) fun l hl hlast =>
    hblank '\r' rfl (by decide) l hl (List.mem_of_getLast? hlast), List.map_map, List.filterMap_map]
  refine (List.filterMap_congr fun r hr => ?_).trans List.filterMap_some
  exact (h r hr).readRecord?_recordText

/-- A table is read back from its own text exactly if all its records can stand in a line. -/
theorem ofText_text_eq_iff :
    ofText t.text = t ↔ ∀ token lemmas, t[token]? = some lemmas → Writable token lemmas := by
  constructor
  · intro h token lemmas hl
    rw [← h] at hl
    exact writable_of_ofText hl
  · intro h
    have hrecords : records t.text = t.toList := records_text fun r hr =>
      h r.1 r.2 (Std.ExtTreeMap.mem_toList_iff_getElem?_eq_some.1 hr)
    rw [ofText_eq_foldl, hrecords]
    exact foldl_insert_toList t

end LemmaTable

end DocSearch
