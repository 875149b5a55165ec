/-
Writing files. A file can only be put where no directory is, so every path that could be followed
before still can be, and the path written to names the new file.
-/
import DocSearch.Proofs.FileTree.Walk

namespace DocSearch.FileTree

/-! ## What a path names -/

theorem resolve_eq_ok_iff {t : FileTree} {p : Path} {place : List String} :
    t.resolve p = .ok place ↔
      p.text ≠ "" ∧ t.follow (if p.isAbsolute then [] else t.workDir) p.parts = .ok place := by
  unfold resolve
  split
  · rename_i h
    simp only [String.isEmpty_iff] at h
    simp [h]
  · rename_i h
    simp only [String.isEmpty_iff] at h
    simp [h]

/-- A path that names something names the same place as long as no directory is taken away. -/
theorem resolve_mono {t t' : FileTree} (hw : t'.workDir = t.workDir)
    (hd : ∀ place, t.node? place = some .directory → t'.node? place = some .directory) {p : Path}
    {q : List String} (h : t.resolve p = .ok q) : t'.resolve p = .ok q := by
  obtain ⟨hne, hfollow⟩ := resolve_eq_ok_iff.1 h
  rw [← hw] at hfollow
  exact resolve_eq_ok_iff.2 ⟨hne, follow_mono hd hfollow⟩

theorem lookup_eq_ok_iff {t : FileTree} {p : Path} {n : Node} :
    t.lookup p = .ok n ↔ ∃ place, t.resolve p = .ok place ∧ t.node? place = some n := by
  unfold lookup
  cases t.resolve p with
  | error e => simp [bind, Except.bind]
  | ok place =>
    simp only [bind, Except.bind, Except.ok.injEq, exists_eq_left']
    cases t.node? place with
    | none => simp
    | some m => simp

theorem read_eq_ok_iff {t : FileTree} {p : Path} {bytes : ByteArray} :
    t.read p = .ok bytes ↔ t.lookup p = .ok (.file bytes) := by
  unfold read
  cases t.lookup p with
  | error e => simp [bind, Except.bind]
  | ok n => cases n <;> simp [bind, Except.bind]

/-! ## Putting a file -/

theorem workDir_putFile (t : FileTree) (place : List String) (bytes : ByteArray) :
    (t.putFile place bytes).workDir = t.workDir := rfl

theorem node?_putFile {t : FileTree} {place q : List String} {bytes : ByteArray} (h : place ≠ []) :
    (t.putFile place bytes).node? q = if q = place then some (.file bytes) else t.node? q := by
  unfold node? putFile
  simp only [Std.ExtTreeMap.getElem?_insert, Std.LawfulEqCmp.compare_eq_iff_eq, List.isEmpty_iff]
  by_cases hq : q = []
  · have hne : q ≠ place := fun he => h (he.symm.trans hq)
    rw [if_pos hq, if_pos hq, if_neg hne]
  · rw [if_neg hq, if_neg hq]
    simp only [eq_comm]

theorem ne_root_of_node? {t : FileTree} {place : List String} (h : t.node? place ≠ some .directory) :
    place ≠ [] := by
  rintro rfl
  exact h rfl

/-- A tree with one more file, at a place where no directory is, has the same directories. -/
theorem node?_putFile_directory {t : FileTree} {place : List String} {bytes : ByteArray}
    (h : t.node? place ≠ some .directory) {q : List String} (hq : t.node? q = some .directory) :
    (t.putFile place bytes).node? q = some .directory := by
  have hne : q ≠ place := by
    rintro rfl
    exact h hq
  rw [node?_putFile (ne_root_of_node? h), if_neg hne, hq]

theorem write_eq_ok_iff {t t' : FileTree} {p : Path} {bytes : ByteArray} :
    t.write p bytes = .ok t' ↔
      ∃ place, t.resolve p = .ok place ∧ t.node? place ≠ some .directory ∧
        t' = t.putFile place bytes := by
  unfold write
  cases t.resolve p with
  | error e => simp [bind, Except.bind]
  | ok place =>
    simp only [bind, Except.bind, Except.ok.injEq, exists_eq_left']
    split
    · rename_i h; simp [h]
    · rename_i h
      rw [Except.ok.injEq, eq_comm]
      exact (and_iff_right h).symm

/-- What has been written is read back. -/
theorem read_write {t t' : FileTree} {p : Path} {bytes : ByteArray} (h : t.write p bytes = .ok t') :
    t'.read p = .ok bytes := by
  obtain ⟨place, hplace, hfree, rfl⟩ := write_eq_ok_iff.1 h
  refine read_eq_ok_iff.2 (lookup_eq_ok_iff.2 ⟨place, ?_, ?_⟩)
  · exact resolve_mono (workDir_putFile t place bytes) (fun _ => node?_putFile_directory hfree) hplace
  · rw [node?_putFile (ne_root_of_node? hfree), if_pos rfl]

end DocSearch.FileTree
