/-
Sets of documents as text. The identifiers stand between commas and hold none, so the pieces of the
text are their texts again.
-/
import DocSearch.DocSet
import DocSearch.Proofs.Text.Lines
import DocSearch.Proofs.Text.Numeral

namespace DocSearch.DocSet

theorem toList_text (docs : DocSet) :
    (docs.text ",").toList = [','].intercalate (docs.toList.map fun d => d.text.toList) := by
  rw [text, String.toList_intercalate, List.map_map]
  rfl

theorem mem_text {docs : DocSet} {c : Char} (hc : c.isDigit = false)
    (h : c ∈ (docs.text ",").toList) : c = ',' := by
  rw [toList_text] at h
  refine (Text.eq_or_mem_of_mem_intercalate h).resolve_right ?_
  rintro ⟨l, hl, hmem⟩
  obtain ⟨d, -, rfl⟩ := List.mem_map.1 hl
  exact DocId.notMem_text hc hmem

theorem text_empty : (∅ : DocSet).text "," = "" := rfl

theorem splitOn_text {docs : DocSet} (h : docs ≠ ∅) :
    (docs.text ",").toList.splitOn ',' = docs.toList.map fun d => d.text.toList := by
  have hne : docs.toList ≠ [] := fun he => h (Std.ExtTreeSet.toList_eq_nil_iff.1 he)
  rw [toList_text, List.splitOn_intercalate ',' _ (by simpa using hne)]
  intro l hl
  obtain ⟨d, -, rfl⟩ := List.mem_map.1 hl
  exact DocId.notMem_text rfl

theorem ofList_toList (docs : DocSet) : ofList docs.toList = docs := by
  apply Std.ExtTreeSet.ext_mem
  intro d
  rw [ofList, Std.ExtTreeSet.mem_ofList, List.contains_iff_mem, Std.ExtTreeSet.mem_toList]

/-- A result is known by the documents that it lists. -/
theorem eq_ok_of_toList {ε : Type} {x : Except ε DocSet} {s : DocSet}
    (h : x.toOption.map (·.toList) = some s.toList) : x = .ok s := by
  cases x with
  | error e => cases h
  | ok a =>
    have hlist : a.toList = s.toList := Option.some.inj h
    rw [← ofList_toList a, hlist, ofList_toList]

end DocSearch.DocSet
