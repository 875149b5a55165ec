/-
Files below a directory that is there. Saving one changes its own place and nothing else, so a run of
saves leaves for each place what was saved there last, and the directory lists the names of it all.
-/
import DocSearch.FileTree.Listing
import DocSearch.Proofs.FileTree.Directories
import DocSearch.Proofs.Inserts
import DocSearch.Proofs.Snapshot.Change

namespace DocSearch.FileTree

open DocSearch.Path

variable {t t' : FileTree} {p : Path} {name text : String} {u : Unit}

/-! ## Saving below a directory -/

theorem yields_saveText_join (h : Plain name) {r : List String} (hb : t.base p = .ok r)
    (hd : t.node? r = some .directory) : (Change.saveText (p.join name) text).Yields t u t' ↔
      t.node? (r ++ [name]) ≠ some .directory ∧ t' = t.putFile (r ++ [name]) text.toUTF8 := by
  have hplace : t.resolve (p.join name) = .ok (r ++ [name]) :=
    (resolve_join_eq_ok_iff h).2 ⟨r, hb, hd, rfl⟩
  rw [Change.yields_saveText]
  simp only [parent?_join h, Option.some.injEq, forall_eq', createDirectories_of_directory hb hd,
    Prod.mk.injEq, true_and, reduceCtorEq, false_implies, exists_eq_left', write_eq_ok_iff, hplace,
    Except.ok.injEq]

/-- A text that is saved below a path has that path as a directory first. -/
theorem exists_of_yields_saveText_join (h : Plain name)
    (hs : (Change.saveText (p.join name) text).Yields t u t') : ∃ s r,
      t.createDirectories p.stem = (.ok (), s) ∧ s.base p = .ok r ∧ s.node? r = some .directory ∧
        (Change.saveText (p.join name) text).Yields s u t' := by
  obtain ⟨s, hmade, -, hwrite⟩ := Change.yields_saveText.1 hs
  obtain ⟨place, hplace, hfree, rfl⟩ := write_eq_ok_iff.1 hwrite
  obtain ⟨r, hb, hd, rfl⟩ := (resolve_join_eq_ok_iff h).1 hplace
  exact ⟨s, r, hmade _ (parent?_join h), hb, hd, (yields_saveText_join h hb hd).2 ⟨hfree, rfl⟩⟩

/-! ## Runs of saves -/

/-- Puts files one after the other. -/
def putFiles (t : FileTree) (fs : List (List String × ByteArray)) : FileTree :=
  fs.foldl (fun t f => t.putFile f.1 f.2) t

theorem putFiles_append (t : FileTree) (fs gs : List (List String × ByteArray)) :
    t.putFiles (fs ++ gs) = (t.putFiles fs).putFiles gs := List.foldl_append

theorem nodes_putFiles : ∀ (fs : List (List String × ByteArray)) (t : FileTree),
    (t.putFiles fs).nodes = fs.foldl (fun m f => m.insert f.1 (.file f.2)) t.nodes
  | [], _ => rfl
  | f :: fs, t => nodes_putFiles fs (t.putFile f.1 f.2)

theorem getElem?_putFiles_of_mem {fs : List (List String × ByteArray)} {f : List String × ByteArray}
    (hf : f ∈ fs) (h : ∀ g ∈ fs, g.1 = f.1 → g.2 = f.2) :
    (t.putFiles fs).nodes[f.1]? = some (.file f.2) := by
  rw [nodes_putFiles]
  exact getElem?_foldl_insert_of_mem Prod.fst (fun f => Node.file f.2) hf
    fun g hg hplace => congrArg Node.file (h g hg hplace)

theorem exists_getElem?_putFiles_iff {fs : List (List String × ByteArray)} {q : List String} :
    (∃ n, (t.putFiles fs).nodes[q]? = some n) ↔ (∃ f ∈ fs, f.1 = q) ∨ ∃ n, t.nodes[q]? = some n := by
  rw [nodes_putFiles]
  exact exists_getElem?_foldl_insert_iff Prod.fst fun f => Node.file f.2

/-- What stands at a place is one of the files, or was there before. -/
theorem mem_of_getElem?_putFiles {fs : List (List String × ByteArray)} {q : List String} {n : Node}
    (h : (t.putFiles fs).nodes[q]? = some n) :
    (∃ f ∈ fs, f.1 = q ∧ .file f.2 = n) ∨ t.nodes[q]? = some n := by
  rw [nodes_putFiles] at h
  exact mem_of_getElem?_foldl_insert (γ := List String × ByteArray) Prod.fst (fun f => Node.file f.2) h

theorem workDir_putFiles : ∀ (fs : List (List String × ByteArray)) (t : FileTree),
    (t.putFiles fs).workDir = t.workDir
  | [], _ => rfl
  | f :: fs, t => workDir_putFiles fs (t.putFile f.1 f.2)

/-! ## Listing -/

theorem mem_children {place : List String} {n : Node} :
    (name, n) ∈ t.children place ↔ t.nodes[place ++ [name]]? = some n := by
  unfold children
  rw [List.mem_filterMap, ← Std.ExtTreeMap.mem_toList_iff_getElem?_eq_some]
  constructor
  · rintro ⟨⟨key, n'⟩, hmem, h⟩
    simp only at h
    split at h
    · rename_i name' above hkey
      obtain ⟨habove, he⟩ := Option.ite_none_right_eq_some.1 h
      cases he
      rw [← habove, ← List.reverse_cons, ← hkey, List.reverse_reverse]
      exact hmem
    · cases h
  · intro hmem
    refine ⟨_, hmem, ?_⟩
    simp

theorem listDirectory_eq_ok_iff {es : List (String × Node)} : t.listDirectory p = .ok es ↔
    ∃ r, t.resolve p = .ok r ∧ t.node? r = some .directory ∧ t.children r = es := by
  unfold listDirectory
  cases t.resolve p with
  | error e => simp [bind, Except.bind]
  | ok r =>
    simp only [bind, Except.bind, Except.ok.injEq, exists_eq_left']
    rw [← requireDirectory_eq_ok_iff (u := ())]
    cases t.requireDirectory r with
    | error e => simp
    | ok u => simp

/-- The files that a path lists have different names. -/
theorem eq_of_mem_filesAt {dir : Path} {f g : ListedFile} (hf : f ∈ t.filesAt dir)
    (hg : g ∈ t.filesAt dir) (hname : f.name = g.name) : f = g := by
  unfold filesAt at hf hg
  cases hlookup : t.lookup dir with
  | error e => rw [hlookup] at hf; cases hf
  | ok n =>
    cases n with
    | file bytes =>
      rw [hlookup] at hf hg
      rw [List.mem_singleton.1 hf, List.mem_singleton.1 hg]
    | directory =>
      cases hlist : t.listDirectory dir with
      | error e => simp only [hlookup, hlist] at hf; cases hf
      | ok es =>
        obtain ⟨r, -, -, rfl⟩ := listDirectory_eq_ok_iff.1 hlist
        simp only [hlookup, hlist, List.mem_filterMap] at hf hg
        obtain ⟨⟨name, _ | _⟩, hn, ⟨⟩⟩ := hf
        obtain ⟨⟨name', _ | _⟩, hn', ⟨⟩⟩ := hg
        obtain rfl : name = name' := hname
        cases (mem_children.1 hn).symm.trans (mem_children.1 hn')
        rfl

theorem readText_join_eq_ok_iff (h : Plain name) {r : List String} (hb : t.base p = .ok r)
    (hd : t.node? r = some .directory) :
    t.readText (p.join name) = .ok text ↔ t.node? (r ++ [name]) = some (.file text.toUTF8) := by
  have hplace : t.resolve (p.join name) = .ok (r ++ [name]) :=
    (resolve_join_eq_ok_iff h).2 ⟨r, hb, hd, rfl⟩
  rw [readText_eq_ok_iff, read_eq_ok_iff, lookup_eq_ok_iff, hplace]
  simp only [Except.ok.injEq, exists_eq_left']

/-! ## Reading after changes -/

theorem readText_eq_ok_iff_node? :
    t.readText p = .ok text ↔ ∃ q, t.resolve p = .ok q ∧ t.node? q = some (.file text.toUTF8) := by
  rw [readText_eq_ok_iff, read_eq_ok_iff, lookup_eq_ok_iff]

theorem exists?_of_readText (h : t.readText p = .ok text) : t.exists? p = true := by
  unfold exists?
  rw [read_eq_ok_iff.1 (readText_eq_ok_iff.1 h)]

theorem MoreDirectories.readText {P : List String → Prop} (h : MoreDirectories P t t')
    (hread : t.readText p = .ok text) : t'.readText p = .ok text := by
  obtain ⟨q, hq, hn⟩ := readText_eq_ok_iff_node?.1 hread
  refine readText_eq_ok_iff_node?.2 ⟨q, resolve_mono h.workDir (fun _ => h.directory) hq, ?_⟩
  rcases h.node? q with hsame | ⟨hfree, -, -⟩
  · rw [hsame, hn]
  · rw [hn] at hfree; cases hfree

/-- Where a text has been put, a path that could be read is read as before or gives that text. -/
theorem readText_putFile {place : List String} {new : String}
    (hfree : t.node? place ≠ some .directory) (hread : t.readText p = .ok text) :
    ∃ s, (t.putFile place new.toUTF8).readText p = .ok s ∧ (s = text ∨ s = new) := by
  obtain ⟨q, hq, hn⟩ := readText_eq_ok_iff_node?.1 hread
  have hplace := resolve_mono (workDir_putFile t place new.toUTF8)
    (fun _ => node?_putFile_directory hfree) hq
  have hnode : (t.putFile place new.toUTF8).node? q = _ := node?_putFile (ne_root_of_node? hfree)
  split at hnode
  · exact ⟨new, readText_eq_ok_iff_node?.2 ⟨q, hplace, hnode⟩, .inr rfl⟩
  · exact ⟨text, readText_eq_ok_iff_node?.2 ⟨q, hplace, hnode.trans hn⟩, .inl rfl⟩

end DocSearch.FileTree
