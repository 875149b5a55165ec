/-
Paths and their parts. A path is its parts with slashes between them, so the path of a name below
another path, and the path above it, are known from the parts alone.
-/
import Mathlib.Data.List.DropRight
import DocSearch.FileTree.Path
import DocSearch.Proofs.Text.Lines

namespace DocSearch.Path

/-! ## Texts and parts -/

theorem parts_ne_nil (p : Path) : p.parts ≠ [] := by
  unfold parts
  rw [Ne, List.map_eq_nil_iff]
  exact List.splitOn_ne_nil _ _

theorem map_toList_parts (p : Path) : p.parts.map String.toList = p.text.toList.splitOn '/' := by
  unfold parts
  rw [List.map_map]
  simp [Function.comp_def]

theorem toList_text (p : Path) : p.text.toList = ['/'].intercalate (p.parts.map String.toList) := by
  rw [map_toList_parts, List.intercalate_splitOn]

theorem ext_parts {p q : Path} (h : p.parts = q.parts) : p = q := by
  have htext : p.text = q.text := String.toList_inj.1 (by rw [toList_text, toList_text, h])
  cases p; cases q
  exact congrArg Path.mk htext

theorem parts_of_toList {p : Path} (cs : List Char) (h : p.text.toList = cs) :
    p.parts = (cs.splitOn '/').map .ofList := by
  rw [← h]; rfl

theorem notMem_slash_of_mem_parts {p : Path} {part : String} (h : part ∈ p.parts) :
    '/' ∉ part.toList := by
  obtain ⟨cs, hcs, rfl⟩ := List.mem_map.1 h
  rw [String.toList_ofList]
  exact Text.notMem_of_mem_splitOn hcs

/-- Parts without slashes are those of the path put together from them. -/
theorem parts_intercalate {ps : List String} (hne : ps ≠ []) (h : ∀ part ∈ ps, '/' ∉ part.toList) :
    parts ⟨"/".intercalate ps⟩ = ps := by
  have hslash : ∀ l ∈ ps.map String.toList, '/' ∉ l := fun l hl => by
    obtain ⟨part, hpart, rfl⟩ := List.mem_map.1 hl
    exact h part hpart
  have htext : (⟨"/".intercalate ps⟩ : Path).text.toList = ['/'].intercalate (ps.map String.toList) :=
    String.toList_intercalate
  rw [parts_of_toList _ htext, List.splitOn_intercalate '/' hslash (by simpa using hne), List.map_map]
  simp [Function.comp_def]

theorem isAbsolute_iff {p : Path} : p.isAbsolute = true ↔ ∃ rest, rest ≠ [] ∧ p.parts = "" :: rest := by
  unfold isAbsolute
  rw [String.startsWith_string_iff]
  constructor
  · rintro ⟨cs, hcs⟩
    refine ⟨(cs.splitOn '/').map .ofList, by simp, ?_⟩
    rw [parts_of_toList _ hcs.symm]
    exact congrArg (List.map String.ofList)
      (List.splitOn_append_cons_self_of_not_mem (List.not_mem_nil : '/' ∉ []) cs)
  · rintro ⟨rest, hne, hparts⟩
    obtain ⟨r, rs, rfl⟩ := List.exists_cons_of_ne_nil hne
    rw [toList_text p, hparts]
    exact ⟨_, rfl⟩

/-! ## The path of a name -/

/-- A name that leads one step down. -/
structure Plain (name : String) : Prop where
  slash : '/' ∉ name.toList
  void : isVoid name = false
  up : name ≠ ".."

instance (name : String) : Decidable (Plain name) :=
  decidable_of_iff ('/' ∉ name.toList ∧ isVoid name = false ∧ name ≠ "..")
    ⟨fun h => ⟨h.1, h.2.1, h.2.2⟩, fun h => ⟨h.slash, h.void, h.up⟩⟩

theorem text_eq_empty_of_parts {p : Path} (h : p.parts = [""]) : p.text = "" := by
  rw [← String.toList_inj, toList_text, h]
  rfl

/-- The name is put in place of an empty last part, or behind the last part. -/
theorem parts_join {p : Path} {name : String} (h : Plain name) :
    (∃ init, p.parts = init ++ [""] ∧ (p.join name).parts = init ++ [name]) ∨
      p.text ≠ "" ∧ (p.join name).parts = p.parts ++ [name] := by
  have hname : name.toList.splitOn '/' = [name.toList] := List.splitOn_eq_singleton h.slash
  have hstart : ¬ name.startsWith "/" = true := fun hs =>
    h.slash ((String.startsWith_string_iff.1 hs).subset List.mem_cons_self)
  unfold join
  rw [if_neg hstart]
  split
  · rename_i hcond
    rw [Bool.or_eq_true, String.isEmpty_iff] at hcond
    rcases hcond with hempty | hend
    · refine .inl ⟨[], by rw [parts, hempty]; rfl, ?_⟩
      rw [parts_of_toList name.toList (by simp [hempty]), hname]
      simp
    · rw [String.endsWith_eq_endsWith_toSlice, String.Slice.endsWith_string_iff,
        String.copy_toSlice] at hend
      obtain ⟨cs, hcs⟩ := hend
      have hcs : p.text.toList = cs ++ ['/'] := hcs.symm
      refine .inl ⟨(cs.splitOn '/').map .ofList, ?_, ?_⟩
      · rw [parts_of_toList _ hcs, List.splitOn_append_cons_self]
        simp
      · rw [parts_of_toList (cs ++ '/' :: name.toList) (by simp [hcs]),
          List.splitOn_append_cons_self, hname]
        simp
  · rename_i hcond
    rw [Bool.or_eq_true, String.isEmpty_iff] at hcond
    refine .inr ⟨fun he => hcond (.inl he), ?_⟩
    rw [parts_of_toList (p.text.toList ++ '/' :: name.toList) (by simp),
      List.splitOn_append_cons_self, hname, ← map_toList_parts]
    simp [Function.comp_def]

theorem components_join {p : Path} {name : String} (h : Plain name) :
    (p.join name).components = p.components ++ [name] := by
  unfold components
  rcases parts_join (p := p) h with ⟨init, hp, hj⟩ | ⟨-, hj⟩
  · have hempty : isVoid "" = true := rfl
    rw [hp, hj]
    simp [h.void, hempty]
  · rw [hj]
    simp [h.void]

theorem isAbsolute_join {p : Path} {name : String} (h : Plain name) :
    (p.join name).isAbsolute = p.isAbsolute := by
  rw [Bool.eq_iff_iff, isAbsolute_iff, isAbsolute_iff]
  rcases parts_join (p := p) h with ⟨init, hp, hj⟩ | ⟨hne, hj⟩
  · rw [hp, hj]
    cases init with
    | nil => simp
    | cons part init => simp
  · rw [hj]
    obtain ⟨part, rest, hp⟩ := List.exists_cons_of_ne_nil (parts_ne_nil p)
    rw [hp]
    have hrest : part = "" → rest ≠ [] := by
      rintro rfl rfl
      exact hne (text_eq_empty_of_parts hp)
    simpa [and_comm] using hrest

/-! ## The path above -/

/-- The path with the given parts and nothing void at the end, or the root or the empty path. -/
def ofKept (absolute : Bool) (kept : List String) : Path :=
  if kept = [] then ⟨if absolute then "/" else ""⟩ else ⟨"/".intercalate kept⟩

/-- The path without the void parts at its end. -/
def stem (p : Path) : Path := ofKept p.isAbsolute (p.parts.rdropWhile isVoid)

theorem parent?_eq (p : Path) : p.parent? = if p.components = [] then none else
    some (ofKept p.isAbsolute ((p.parts.rdropWhile isVoid).dropLast.rdropWhile isVoid)) := by
  unfold parent? ofKept List.rdropWhile
  simp only [List.isEmpty_iff, List.dropLast_reverse, List.reverse_reverse, List.reverse_eq_nil_iff]
  split
  · rfl
  · split <;> rfl

/-- The path above that of a name is the path that the name was put to, its end tidied up. -/
theorem parent?_join {p : Path} {name : String} (h : Plain name) :
    (p.join name).parent? = some p.stem := by
  rw [parent?_eq, if_neg (by simp [components_join h]), isAbsolute_join h, stem]
  refine congrArg (fun kept => some (ofKept p.isAbsolute kept)) ?_
  rcases parts_join (p := p) h with ⟨init, hp, hj⟩ | ⟨-, hj⟩
  · rw [hp, hj, List.rdropWhile_concat_neg _ _ _ (by simp [h.void]), List.dropLast_concat,
      List.rdropWhile_concat_pos _ _ _ rfl]
  · rw [hj, List.rdropWhile_concat_neg _ _ _ (by simp [h.void]), List.dropLast_concat]

section OfKept

variable {p : Path} {kept : List String} (hinit : kept <+: p.parts)
  (hlast : ∀ part ∈ kept.getLast?, isVoid part = false)
include hinit

theorem parts_ofKept {absolute : Bool} (hne : kept ≠ []) : (ofKept absolute kept).parts = kept := by
  rw [ofKept, if_neg hne]
  exact parts_intercalate hne fun part hpart => notMem_slash_of_mem_parts (hinit.subset hpart)

theorem components_ofKept {absolute : Bool} :
    (ofKept absolute kept).components = kept.filter (!isVoid ·) := by
  by_cases hne : kept = []
  · rw [ofKept, if_pos hne, hne]
    cases absolute <;> decide
  · rw [components, parts_ofKept hinit hne]

include hlast

theorem isAbsolute_ofKept : (ofKept p.isAbsolute kept).isAbsolute = p.isAbsolute := by
  by_cases hne : kept = []
  · rw [ofKept, if_pos hne]
    cases p.isAbsolute <;> simp [isAbsolute]
  · rw [Bool.eq_iff_iff, isAbsolute_iff, isAbsolute_iff, parts_ofKept hinit hne]
    obtain ⟨more, hmore⟩ := hinit
    obtain ⟨part, rest, rfl⟩ := List.exists_cons_of_ne_nil hne
    rw [← hmore]
    -- the last part is not void, so an empty first part is not the last one
    have hrest : part = "" → rest ≠ [] := by
      rintro rfl rfl
      cases hlast "" rfl
    simp only [List.cons_append, List.cons.injEq]
    constructor
    · rintro ⟨_, hne, hpart, rfl⟩
      exact ⟨rest ++ more, by simp [hne], hpart, rfl⟩
    · rintro ⟨_, -, hpart, -⟩
      exact ⟨rest, hrest hpart, hpart, rfl⟩

end OfKept

theorem isVoid_getLast?_rdropWhile (parts : List String) :
    ∀ part ∈ (parts.rdropWhile isVoid).getLast?, isVoid part = false := by
  intro part hpart
  obtain ⟨hne, rfl⟩ := List.mem_getLast?_eq_getLast hpart
  exact Bool.eq_false_iff.2 (List.rdropWhile_last_not isVoid parts hne)

/-- The path above has some of the first components, and starts where the path starts. -/
theorem of_parent?_eq_some {p q : Path} (h : p.parent? = some q) :
    q.components <+: p.components ∧ q.isAbsolute = p.isAbsolute := by
  rw [parent?_eq] at h
  split at h
  · cases h
  · cases h
    have hinit : (p.parts.rdropWhile isVoid).dropLast.rdropWhile isVoid <+: p.parts :=
      (List.rdropWhile_prefix ..).trans ((List.dropLast_prefix _).trans (List.rdropWhile_prefix ..))
    refine ⟨?_, isAbsolute_ofKept hinit (isVoid_getLast?_rdropWhile _)⟩
    rw [components_ofKept hinit]
    exact hinit.filter _

theorem isAbsolute_stem (p : Path) : p.stem.isAbsolute = p.isAbsolute :=
  isAbsolute_ofKept (List.rdropWhile_prefix ..) (isVoid_getLast?_rdropWhile _)

theorem parts_stem {p : Path} (h : p.stem.components ≠ []) :
    p.stem.parts = p.parts.rdropWhile isVoid := by
  refine parts_ofKept (List.rdropWhile_prefix ..) fun he => h ?_
  rw [stem, components_ofKept (List.rdropWhile_prefix ..), he]
  rfl

theorem components_stem (p : Path) : p.stem.components = p.components := by
  have hvoid : (p.parts.rtakeWhile isVoid).filter (!isVoid ·) = [] :=
    List.filter_eq_nil_iff.2 fun part hpart => by simp [List.mem_rtakeWhile_imp hpart]
  rw [stem, components_ofKept (List.rdropWhile_prefix ..), components]
  nth_rewrite 2 [← List.rdropWhile_append_rtakeWhile (p := isVoid) (l := p.parts)]
  rw [List.filter_append, hvoid, List.append_nil]

/-- The path of a name has nothing to tidy up. -/
theorem stem_join {p : Path} {name : String} (h : Plain name) : (p.join name).stem = p.join name := by
  have hkept : (p.join name).parts.rdropWhile isVoid = (p.join name).parts := by
    rcases parts_join (p := p) h with ⟨init, -, hj⟩ | ⟨-, hj⟩ <;>
      rw [hj, List.rdropWhile_concat_neg _ _ _ (by simp [h.void])]
  apply ext_parts
  rw [stem, hkept]
  exact parts_ofKept List.prefix_rfl (parts_ne_nil _)

end DocSearch.Path
