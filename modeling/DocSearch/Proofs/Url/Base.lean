/-
Addresses as bases. What is read on a page does not depend on the fragment of the page's address:
the fragment is never read, and an address that nothing can be resolved against only gets another
fragment. So a page's address can lose its fragment before its links are resolved.
-/
import Mathlib.Data.List.DropRight
import DocSearch.Url.Parse

namespace DocSearch.Url

variable {u : Url} {cs : List Char}

/-! ## Addresses that nothing can be resolved against -/

theorem isPlain_afterSlashes? {scheme : String} (h : afterSlashes? scheme cs = some u) :
    u.isPlain = false := by
  unfold afterSlashes? at h
  obtain ⟨⟨authority, left⟩, -, h⟩ := Option.bind_eq_some_iff.1 h
  simp only at h
  split at h
  · cases h
  · split at h
    · cases h; rfl
    · cases h; rfl

theorem isPlain_fileAfterSlashes? (h : fileAfterSlashes? cs = some u) : u.isPlain = false := by
  unfold fileAfterSlashes? at h
  simp only at h
  split at h
  · cases h; rfl
  · split at h
    · cases h; rfl
    · obtain ⟨host, -, h⟩ := Option.bind_eq_some_iff.1 h
      split at h
      · cases h; rfl
      · cases h; rfl

theorem isPlain_readFile? (h : readFile? none cs = some u) : u.isPlain = false := by
  unfold readFile? at h
  simp only at h
  split at h
  · split at h
    · exact isPlain_fileAfterSlashes? h
    · cases h; rfl
  · cases h; rfl

/-- An address that nothing can be resolved against has none of the schemes with a form of their
own. -/
theorem kindOf_of_isPlain (h : parse? cs = some u) (hplain : u.isPlain = true) :
    kindOf u.scheme = .other := by
  unfold parse? read? at h
  simp only at h
  split at h
  · rename_i scheme rest _
    unfold afterScheme? at h
    simp only [Option.filter_none] at h
    split at h
    · rw [isPlain_readFile? h] at hplain; cases hplain
    · rw [isPlain_afterSlashes? h] at hplain; cases hplain
    · rename_i hkind
      split at h
      · rw [isPlain_afterSlashes? h] at hplain; cases hplain
      · cases h; cases hplain
      · cases h; exact hkind
  · cases h

/-! ## Bases without fragments -/

/-- The address without its fragment, whatever its path is. -/
def dropFragment (u : Url) : Url := { u with fragment := none }

theorem readRelative?_dropFragment (u : Url) (cs : List Char) :
    readRelative? u.dropFragment cs = readRelative? u cs := rfl

theorem readFile?_dropFragment (base : Option Url) (cs : List Char) :
    readFile? (base.map dropFragment) cs = readFile? base cs := by
  cases base with
  | none => rfl
  | some u =>
    have hroot : ∀ path, fileRoot (some u.dropFragment) path = fileRoot (some u) path := fun _ => rfl
    rw [Option.map_some]
    unfold readFile?
    simp only [hroot]
    cases next? cs with
    | none => rfl
    | some first => rfl

theorem afterScheme?_dropFragment (base : Option Url) (scheme : String) (cs : List Char) :
    afterScheme? (base.map dropFragment) scheme cs = afterScheme? base scheme cs := by
  have hfilter : ∀ P : String → Bool, (base.map dropFragment).filter (fun b => P b.scheme) =
      (base.filter fun b => P b.scheme).map dropFragment := fun P => Option.filter_map
  unfold afterScheme?
  cases kindOf scheme with
  | file =>
    simp only
    rw [hfilter (· = "file"), readFile?_dropFragment]
  | network =>
    simp only
    generalize (List.takeWhile isAnySlash (significant cs)).length = slashes
    rw [hfilter fun s => slashes < 2 ∧ s = scheme]
    cases base.filter fun b => decide (slashes < 2 ∧ b.scheme = scheme) with
    | none => rfl
    | some b => exact readRelative?_dropFragment b _
  | other => rfl

/-- The fragment of a base is not read. -/
theorem join?_dropFragment (u : Url) (cs : List Char) : join? u.dropFragment cs = join? u cs := by
  unfold join? read?
  simp only [← Option.map_some, afterScheme?_dropFragment, readFile?_dropFragment]
  rfl

theorem withoutFragment_of_segments (h : u.isPlain = false) : u.withoutFragment = u.dropFragment := by
  obtain ⟨scheme, authority, path, query, fragment⟩ := u
  cases path with
  | segments text => rfl
  | plain text => cases h

/-! ## Plain addresses without fragments -/

theorem dropSpacesRight_dropSpacesRight (s : String) :
    dropSpacesRight (dropSpacesRight s) = dropSpacesRight s := by
  unfold dropSpacesRight
  rw [String.toList_ofList, List.reverse_reverse, List.dropWhile_idempotent]

theorem withoutFragment_withoutFragment (u : Url) :
    u.withoutFragment.withoutFragment = u.withoutFragment := by
  obtain ⟨scheme, authority, path, query, fragment⟩ := u
  unfold withoutFragment
  cases path with
  | segments text => rfl
  | plain text =>
    cases query with
    | none => simp only [dropSpacesRight_dropSpacesRight]
    | some q => rfl

theorem withoutFragment_setFragment (u : Url) (f : Option String) :
    withoutFragment { u with fragment := f } = u.withoutFragment := rfl

theorem isPlain_withoutFragment (u : Url) : u.withoutFragment.isPlain = u.isPlain := by
  obtain ⟨scheme, authority, path, query, fragment⟩ := u
  cases path with
  | segments text => rfl
  | plain text => cases query <;> rfl

/-- A base without a scheme of its own form is not looked at when a scheme is given. -/
theorem afterScheme?_of_other (h : kindOf u.scheme = .other) (scheme : String) (cs : List Char) :
    afterScheme? (some u) scheme cs = afterScheme? none scheme cs := by
  unfold afterScheme?
  cases hkind : kindOf scheme with
  | file =>
    have hno : ¬ u.scheme = "file" := fun he => by rw [he] at h; cases h
    simp only [Option.filter_some, hno, decide_false, Option.filter_none]
    rfl
  | network =>
    have hno : ¬ u.scheme = scheme := fun he => by rw [he, hkind] at h; cases h
    simp only [Option.filter_some, hno, and_false, decide_false, Option.filter_none]
    rfl
  | other => rfl

/-! ## Links of a page -/

/-- Resolved on a page, an address is the same but for its fragment whether or not the page's address
has lost its own. -/
theorem join?_withoutFragment (h : parse? cs = some u) (href : List Char) :
    (u.withoutFragment.join? href).map withoutFragment = (u.join? href).map withoutFragment := by
  by_cases hplain : u.isPlain = true
  · have hkind := kindOf_of_isPlain h hplain
    have hkind' : kindOf u.withoutFragment.scheme = .other := hkind
    unfold join? read?
    simp only
    split
    · rw [afterScheme?_of_other hkind, afterScheme?_of_other hkind']
    · simp only [isPlain_withoutFragment, hplain, if_true]
      split
      · simp only [Option.map_some, withoutFragment_setFragment, withoutFragment_withoutFragment]
      · rfl
  · rw [withoutFragment_of_segments (by simpa using hplain), join?_dropFragment]

theorem ignoresBaseFragment : Address.IgnoresBaseFragment Url := fun _ href _ h =>
  join?_withoutFragment h href

end DocSearch.Url
