/-
The names of weight files. Each is a plain name, and names its document and its space; a document
can have more names than the one that its weights are saved under, such as one with leading zeros.
-/
import DocSearch.Proofs.FileTree.Paths
import DocSearch.Proofs.Text.Numeral
import DocSearch.Snapshot.Layout

namespace DocSearch.Snapshot

open DocSearch.Path

theorem weightsDoc?_eq_some_iff {space : Space} {name : String} {doc : DocId} :
    weightsDoc? space name = some doc ↔ ∃ digits,
      name.toList = space.weightsName.toList ++ (digits ++ ".txt".toList) ∧
        DocId.read? digits = some doc := by
  unfold weightsDoc?
  constructor
  · intro h
    obtain ⟨hstart, h⟩ := Option.ite_none_right_eq_some.1 h
    obtain ⟨hending, h⟩ := Option.ite_none_right_eq_some.1 h
    obtain ⟨rest, hrest⟩ := List.isPrefixOf_iff_prefix.1 hstart
    rw [← hrest, List.drop_left] at hending h
    obtain ⟨digits, hdigits⟩ := List.isSuffixOf_iff_suffix.1 hending
    rw [← hdigits, List.length_append, Nat.add_sub_cancel, List.take_left] at h
    exact ⟨digits, by rw [← hrest, hdigits], h⟩
  · rintro ⟨digits, hname, hdoc⟩
    have hinit : space.weightsName.toList.isPrefixOf
        (space.weightsName.toList ++ (digits ++ ".txt".toList)) = true :=
      List.isPrefixOf_iff_prefix.2 (List.prefix_append _ _)
    have hsuffix : ".txt".toList.isSuffixOf (digits ++ ".txt".toList) = true :=
      List.isSuffixOf_iff_suffix.2 (List.suffix_append _ _)
    simp only [hname, hinit, if_true, List.drop_left, hsuffix, List.length_append,
      Nat.add_sub_cancel, List.take_left', hdoc]

theorem plain_of_weightsDoc? {space : Space} {name : String} {doc : DocId}
    (h : weightsDoc? space name = some doc) : Plain name := by
  obtain ⟨digits, hname, hdoc⟩ := weightsDoc?_eq_some_iff.1 h
  have hhead : name.toList.head? = some 't' := by
    rw [hname]
    cases space <;> rfl
  have hne : ∀ other : String, other.toList.head? ≠ some 't' → name ≠ other := by
    rintro _ hother rfl
    exact hother hhead
  refine ⟨?_, ?_, hne ".." (by decide)⟩
  · rw [hname]
    have hdigits : '/' ∉ digits := DocId.notMem_of_read? hdoc rfl (by decide)
    cases space <;> simp [hdigits, Space.weightsName]
  · rw [isVoid, decide_eq_false (hne "" (by decide)), decide_eq_false (hne "." (by decide))]
    rfl

theorem toList_weightsFileName (space : Space) (doc : DocId) :
    (weightsFileName space doc).toList =
      space.weightsName.toList ++ (doc.text.toList ++ ".txt".toList) := by
  rw [weightsFileName, String.toList_append, String.toList_append, List.append_assoc]

theorem weightsDoc?_weightsFileName (space : Space) (doc : DocId) :
    weightsDoc? space (weightsFileName space doc) = some doc :=
  weightsDoc?_eq_some_iff.2 ⟨_, toList_weightsFileName space doc, DocId.read?_text doc⟩

theorem plain_weightsFileName (space : Space) (doc : DocId) : Plain (weightsFileName space doc) :=
  plain_of_weightsDoc? (weightsDoc?_weightsFileName space doc)

/-- The names of one space are no names of the other. -/
theorem weightsDoc?_weightsFileName_of_ne {space other : Space} (h : space ≠ other) (doc : DocId) :
    weightsDoc? space (weightsFileName other doc) = none := by
  unfold weightsDoc?
  rw [toList_weightsFileName]
  cases space <;> cases other
  · exact absurd rfl h
  · rfl
  · rfl
  · exact absurd rfl h

end DocSearch.Snapshot
