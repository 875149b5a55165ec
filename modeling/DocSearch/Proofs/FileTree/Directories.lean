/-
Making directories. Nothing that is there changes: directories are only put at free places, all of
them on the way to the place that the path was meant for. Where the directory is there already,
making it changes nothing at all.
-/
import DocSearch.Proofs.FileTree.Paths
import DocSearch.Proofs.FileTree.Write
import DocSearch.Proofs.Inserts

namespace DocSearch.FileTree

open DocSearch.Path

variable {t t' : FileTree} {p : Path}

/-! ## Where paths lead -/

/-- The place that a path starts from. -/
def start (t : FileTree) (p : Path) : List String := if p.isAbsolute then [] else t.workDir

/-- Follows a path; unlike for a file, the path may be empty. -/
def base (t : FileTree) (p : Path) : Except IoCause (List String) := t.follow (t.start p) p.parts

theorem intended_eq_foldl_advance (t : FileTree) (p : Path) :
    t.intended p = p.parts.foldl advance (t.start p) := by
  unfold intended components start
  rw [List.foldl_filter]
  congr 1
  funext place part
  unfold advance
  cases isVoid part <;> rfl

theorem intended_of_base {q : List String} (h : t.base p = .ok q) : q = t.intended p := by
  rw [intended_eq_foldl_advance]
  exact eq_foldl_advance_of_follow h

theorem resolve_eq_ok_iff_base {q : List String} :
    t.resolve p = .ok q ↔ p.text ≠ "" ∧ t.base p = .ok q := resolve_eq_ok_iff

theorem text_ne_empty_of_components (h : p.components ≠ []) : p.text ≠ "" := by
  intro he
  apply h
  rw [components, parts, he]
  decide

theorem advance_plain {name : String} (h : Plain name) (place : List String) :
    advance place name = place ++ [name] := by
  rw [advance, h.void, if_neg Bool.false_ne_true, if_neg h.up]

/-- A name is found below the directory that it was put to. -/
theorem base_join_eq_ok_iff {name : String} (h : Plain name) {q : List String} :
    t.base (p.join name) = .ok q ↔
      ∃ r, t.base p = .ok r ∧ t.node? r = some .directory ∧ q = r ++ [name] := by
  have hstep : ∀ place, t.follow place [name] = .ok q ↔
      t.node? place = some .directory ∧ q = place ++ [name] := fun place => by
    rw [follow_cons_eq_ok_iff, follow_nil_eq_ok_iff, advance_plain h]
  have hvoid : ∀ place r, t.follow place [""] = .ok r ↔ t.node? place = some .directory ∧ r = place := by
    intro place r
    rw [follow_cons_eq_ok_iff, follow_nil_eq_ok_iff]
    rfl
  have hstart : t.start (p.join name) = t.start p := by rw [start, isAbsolute_join h, start]
  unfold base
  rw [hstart]
  -- the name stands where an empty last part stood, or behind the last part
  rcases parts_join (p := p) h with ⟨init, hp, hj⟩ | ⟨-, hj⟩
  · simp only [hp, hj, follow_append_eq_ok_iff, hstep, hvoid]
    constructor
    · rintro ⟨r, hr, hd, rfl⟩; exact ⟨r, ⟨r, hr, hd, rfl⟩, hd, rfl⟩
    · rintro ⟨r, ⟨_, hr, -, rfl⟩, hd, rfl⟩; exact ⟨r, hr, hd, rfl⟩
  · simp only [hj, follow_append_eq_ok_iff, hstep]

theorem resolve_join_eq_ok_iff {name : String} (h : Plain name) {q : List String} :
    t.resolve (p.join name) = .ok q ↔
      ∃ r, t.base p = .ok r ∧ t.node? r = some .directory ∧ q = r ++ [name] := by
  rw [resolve_eq_ok_iff_base, base_join_eq_ok_iff h]
  exact and_iff_right (text_ne_empty_of_components (by simp [components_join h]))

theorem intended_join {name : String} (h : Plain name) (t : FileTree) (p : Path) :
    t.intended (p.join name) = t.intended p ++ [name] := by
  unfold intended
  rw [components_join h, isAbsolute_join h, List.foldl_append, List.foldl_cons, List.foldl_nil,
    if_neg h.up]

/-- Void parts lead nowhere else. -/
theorem foldl_advance_void {place : List String} : ∀ {voids : List String},
    (∀ part ∈ voids, isVoid part = true) → voids.foldl advance place = place
  | [], _ => rfl
  | part :: voids, h => by
    rw [List.foldl_cons, advance, if_pos (h part List.mem_cons_self)]
    exact foldl_advance_void fun part hpart => h part (List.mem_cons_of_mem _ hpart)

theorem eq_of_follow_void {voids place r : List String} (h : ∀ part ∈ voids, isVoid part = true)
    (hf : t.follow place voids = .ok r) : r = place :=
  (eq_foldl_advance_of_follow hf).trans (foldl_advance_void h)

theorem base_stem {r : List String} (h : t.base p = .ok r) (hne : p.stem.components ≠ []) :
    t.base p.stem = .ok r := by
  have hstart : t.start p.stem = t.start p := by rw [start, isAbsolute_stem, start]
  unfold base at h ⊢
  rw [hstart, parts_stem hne]
  rw [← List.rdropWhile_append_rtakeWhile (p := isVoid) (l := p.parts), follow_append_eq_ok_iff] at h
  obtain ⟨q, hq, hvoids⟩ := h
  rw [eq_of_follow_void (fun part hpart => List.mem_rtakeWhile_imp hpart) hvoids]
  exact hq

/-! ## Making one directory -/

/-- A path that is not made of empty parts alone has a last part that is not empty. -/
theorem exists_parts_eq (h : p.parts.rdropWhile (· = "") ≠ []) : ∃ above name empties,
    p.parts = above ++ name :: empties ∧ name ≠ "" ∧ ∀ part ∈ empties, part = "" := by
  have hsplit := List.rdropWhile_append_rtakeWhile (p := fun part => decide (part = "")) (l := p.parts)
  rw [← List.dropLast_concat_getLast h, List.append_assoc, List.singleton_append] at hsplit
  refine ⟨_, _, _, hsplit.symm, ?_, fun part hpart => ?_⟩
  · simpa using List.rdropWhile_last_not (fun part => decide (part = "")) p.parts h
  · simpa using List.mem_rtakeWhile_imp hpart

section Parts

variable {above empties : List String} {name : String} (hp : p.parts = above ++ name :: empties)
  (hname : name ≠ "") (he : ∀ part ∈ empties, part = "")
include hp hname he

theorem makeDirectory_of_parts : t.makeDirectory p =
    (t.follow (t.start p) above).bind fun place => (t.requireDirectory place).bind fun _ =>
      if name = "." ∨ name = ".." ∨ (t.node? (place ++ [name])).isSome then .error .alreadyExists
      else .ok (t.putDirectory (place ++ [name])) := by
  have hdrop : p.parts.reverse.dropWhile (· = "") = name :: above.reverse := by
    rw [hp, List.reverse_append, List.reverse_cons, List.append_assoc, List.singleton_append,
      List.dropWhile_append_of_pos (by simpa using he), List.dropWhile_cons_of_neg (by simpa using hname)]
  unfold makeDirectory
  rw [hdrop]
  simp only [List.reverse_reverse]
  rfl

/-- Below a directory, the only thing in the way is what is there already. -/
theorem makeDirectory_of_follow {place : List String} (hf : t.follow (t.start p) above = .ok place)
    (hd : t.node? place = some .directory) : t.makeDirectory p =
      if name = "." ∨ name = ".." ∨ (t.node? (place ++ [name])).isSome then .error .alreadyExists
      else .ok (t.putDirectory (place ++ [name])) := by
  rw [makeDirectory_of_parts hp hname he, hf, Except.bind,
    requireDirectory_eq_ok_iff (u := ()) |>.2 hd]
  rfl

theorem follow_of_makeDirectory (h : t.makeDirectory p = .ok t') : ∃ place,
    t.follow (t.start p) above = .ok place ∧ t.node? place = some .directory := by
  rw [makeDirectory_of_parts hp hname he] at h
  cases hf : t.follow (t.start p) above with
  | error e => rw [hf] at h; cases h
  | ok place =>
    rw [hf, Except.bind] at h
    cases hd : t.requireDirectory place with
    | error e => rw [hd] at h; cases h
    | ok u => exact ⟨place, rfl, requireDirectory_eq_ok_iff.1 hd⟩

end Parts

/-- The directory that is made is the one that the path was meant for. -/
theorem eq_putDirectory_of_makeDirectory (h : t.makeDirectory p = .ok t') :
    t' = t.putDirectory (t.intended p) := by
  by_cases hempty : p.parts.rdropWhile (· = "") = []
  · have hdrop : p.parts.reverse.dropWhile (· = "") = [] := List.reverse_eq_nil_iff.1 hempty
    unfold makeDirectory at h
    rw [hdrop] at h
    cases h
  · obtain ⟨above, name, empties, hp, hname, he⟩ := exists_parts_eq hempty
    obtain ⟨place, hf, hd⟩ := follow_of_makeDirectory hp hname he h
    rw [makeDirectory_of_follow hp hname he hf hd] at h
    split at h
    · cases h
    · rename_i hno
      simp only [not_or] at hno
      have hplain : isVoid name = false := by simp [isVoid, hname, hno.1]
      have hvoids : ∀ part ∈ empties, isVoid part = true := fun part hpart => by
        rw [he part hpart]; rfl
      cases h
      rw [intended_eq_foldl_advance, hp, List.foldl_append, List.foldl_cons,
        ← eq_foldl_advance_of_follow hf, foldl_advance_void hvoids, advance, hplain,
        if_neg Bool.false_ne_true, if_neg hno.2.1]

/-- A directory that is there cannot be made. -/
theorem makeDirectory_of_directory (hne : p.components ≠ []) {r : List String}
    (hb : t.base p = .ok r) (hd : t.node? r = some .directory) :
    t.makeDirectory p = .error .alreadyExists := by
  have hparts : p.parts.rdropWhile (· = "") ≠ [] := fun hnil => hne <| by
    rw [List.rdropWhile_eq_nil_iff] at hnil
    refine List.filter_eq_nil_iff.2 fun part hpart => ?_
    simp [of_decide_eq_true (hnil part hpart), isVoid]
  obtain ⟨above, name, empties, hp, hname, he⟩ := exists_parts_eq hparts
  unfold base at hb
  rw [hp, follow_append_eq_ok_iff] at hb
  obtain ⟨place, hf, hb⟩ := hb
  obtain ⟨hplace, hb⟩ := follow_cons_eq_ok_iff.1 hb
  rw [makeDirectory_of_follow hp hname he hf hplace, if_pos]
  by_cases hdot : name = "."
  · exact .inl hdot
  · by_cases hup : name = ".."
    · exact .inr (.inl hup)
    · -- the name leads to the directory itself, so that place is taken
      have hr := eq_of_follow_void (fun part hpart => by rw [he part hpart]; rfl) hb
      rw [advance, show isVoid name = false by simp [isVoid, hname, hdot], if_neg Bool.false_ne_true,
        if_neg hup] at hr
      refine .inr (.inr ?_)
      rw [← hr, hd]
      rfl

/-- Below a directory that is there, nothing is missing for making another one. -/
theorem makeDirectory_join_ne_notFound {name : String} (h : Plain name) {r : List String}
    (hb : t.base p = .ok r) (hd : t.node? r = some .directory) :
    t.makeDirectory (p.join name) ≠ .error .notFound := by
  have hname : name ≠ "" := by
    rintro rfl
    cases h.void
  have hstart : t.start (p.join name) = t.start p := by rw [start, isAbsolute_join h, start]
  have hfollow : ∃ above, (p.join name).parts = above ++ name :: [] ∧
      t.follow (t.start (p.join name)) above = .ok r := by
    rw [hstart]
    rcases parts_join (p := p) h with ⟨init, hp, hj⟩ | ⟨-, hj⟩
    · refine ⟨init, hj, ?_⟩
      unfold base at hb
      rw [hp, follow_append_eq_ok_iff] at hb
      obtain ⟨q, hq, hvoid⟩ := hb
      rw [eq_of_follow_void (by simp [isVoid]) hvoid]
      exact hq
    · exact ⟨p.parts, hj, hb⟩
  obtain ⟨above, hp, hf⟩ := hfollow
  rw [makeDirectory_of_follow hp hname (by simp) hf hd]
  split <;> simp

/-! ## More directories -/

theorem mem_lineage {q place : List String} : q ∈ lineage place ↔ q ≠ [] ∧ q <+: place := by
  unfold lineage
  rw [List.mem_map]
  constructor
  · rintro ⟨n, hn, rfl⟩
    have hn := List.mem_range.1 hn
    refine ⟨fun he => ?_, List.take_prefix _ _⟩
    rw [List.take_eq_nil_iff] at he
    rcases he with he | rfl
    · cases he
    · cases hn
  · rintro ⟨hne, hinit⟩
    have hlength := hinit.length_le
    have hpos := List.length_pos_of_ne_nil hne
    refine ⟨q.length - 1, List.mem_range.2 (by omega), ?_⟩
    rw [Nat.sub_add_cancel hpos, ← List.prefix_iff_eq_take.1 hinit]

theorem find?_lineage {q place : List String} (hq : q ≠ []) :
    (lineage place).find? (· = q) = if q <+: place then some q else none := by
  split
  · rename_i hplace
    cases hfind : (lineage place).find? (· = q) with
    | none => simpa using List.find?_eq_none.1 hfind q (mem_lineage.2 ⟨hq, hplace⟩)
    | some above => rw [show above = q by simpa using List.find?_some hfind]
  · rename_i hplace
    refine List.find?_eq_none.2 fun above habove he => hplace ?_
    exact of_decide_eq_true he ▸ (mem_lineage.1 habove).2

theorem node?_putDirectory (t : FileTree) (place q : List String) :
    (t.putDirectory place).node? q =
      if q <+: place ∧ t.node? q = none then some .directory else t.node? q := by
  by_cases hq : q = []
  · subst hq
    simp
  · rw [node?_eq_getElem? hq, node?_eq_getElem? hq, putDirectory,
      getElem?_foldl_insertIfNew (fun above => above) fun _ => Node.directory, find?_lineage hq]
    cases t.nodes[q]? with
    | none => simp [apply_ite]
    | some n => simp

/-- A tree with what another tree has, and directories at some of the places that were free. -/
structure MoreDirectories (P : List String → Prop) (t t' : FileTree) : Prop where
  workDir : t'.workDir = t.workDir
  node? : ∀ q, t'.node? q = t.node? q ∨ t.node? q = none ∧ t'.node? q = some .directory ∧ P q

namespace MoreDirectories

variable {P Q : List String → Prop}

theorem refl (t : FileTree) : MoreDirectories P t t := ⟨rfl, fun _ => .inl rfl⟩

theorem mono (h : MoreDirectories P t t') (hPQ : ∀ q, P q → Q q) : MoreDirectories Q t t' :=
  ⟨h.workDir, fun q => (h.node? q).imp_right fun ⟨hfree, hd, hP⟩ => ⟨hfree, hd, hPQ q hP⟩⟩

theorem trans {s : FileTree} (h : MoreDirectories P t s) (h' : MoreDirectories P s t') :
    MoreDirectories P t t' := by
  refine ⟨h'.workDir.trans h.workDir, fun q => ?_⟩
  rcases h'.node? q with hs | ⟨hfree, hd, hP⟩
  · rw [hs]; exact h.node? q
  · rcases h.node? q with ht | ⟨-, hd', -⟩
    · exact .inr ⟨ht ▸ hfree, hd, hP⟩
    · rw [hd'] at hfree; cases hfree

theorem directory (h : MoreDirectories P t t') {q : List String} (hq : t.node? q = some .directory) :
    t'.node? q = some .directory := by
  rcases h.node? q with hs | ⟨hfree, -, -⟩
  · rw [hs, hq]
  · rw [hq] at hfree; cases hfree

theorem getElem?_of_some (h : MoreDirectories P t t') {q : List String} (hq : q ≠ []) {n : Node}
    (hn : t.nodes[q]? = some n) : t'.nodes[q]? = some n := by
  rw [← node?_eq_getElem? hq] at hn ⊢
  rcases h.node? q with hs | ⟨hfree, -, -⟩
  · rw [hs, hn]
  · rw [hn] at hfree; cases hfree

/-- What is there was there before, or is a directory that was made. -/
theorem of_getElem?_some (h : MoreDirectories P t t') {q : List String} (hq : q ≠ []) {n : Node}
    (hn : t'.nodes[q]? = some n) : t.nodes[q]? = some n ∨ n = .directory := by
  rw [← node?_eq_getElem? hq] at hn ⊢
  rcases h.node? q with hs | ⟨-, hd, -⟩
  · exact .inl (hs ▸ hn)
  · exact .inr (Option.some.inj (hn.symm.trans hd))

theorem intended (h : MoreDirectories P t t') (p : Path) : t'.intended p = t.intended p := by
  unfold FileTree.intended
  rw [h.workDir]

end MoreDirectories

theorem moreDirectories_makeDirectory (h : t.makeDirectory p = .ok t') :
    MoreDirectories (· <+: t.intended p) t t' := by
  rw [eq_putDirectory_of_makeDirectory h]
  refine ⟨rfl, fun q => ?_⟩
  rw [node?_putDirectory]
  split
  · rename_i hq; exact .inr ⟨hq.2, rfl, hq.1⟩
  · exact .inl rfl

/-! ## Making a directory and those above it -/

/-- Makes a directory, unless it is there. -/
def ensureDirectory (t : FileTree) (p : Path) : Except IoCause Unit × FileTree :=
  match t.makeDirectory p with
  | .ok t => (.ok (), t)
  | .error e => (if t.isDirectory p then .ok () else .error e, t)

theorem makeChain_cons (t : FileTree) (p : Path) (above : List Path) :
    t.makeChain (p :: above) = match t.makeDirectory p with
      | .error .notFound => match t.makeChain above with
        | (.ok (), t) => t.ensureDirectory p
        | failed => failed
      | _ => t.ensureDirectory p := by
  rw [makeChain]
  rfl

theorem moreDirectories_ensureDirectory (t : FileTree) (p : Path) :
    MoreDirectories (· <+: t.intended p) t (t.ensureDirectory p).2 := by
  unfold ensureDirectory
  cases h : t.makeDirectory p with
  | ok t' => exact moreDirectories_makeDirectory h
  | error e => exact MoreDirectories.refl t

/-- Whatever happens, only directories on the way to one of the paths are made. -/
theorem moreDirectories_makeChain : ∀ (ps : List Path) (t : FileTree),
    MoreDirectories (fun q => ∃ p ∈ ps, q <+: t.intended p) t (t.makeChain ps).2
  | [], t => MoreDirectories.refl t
  | p :: above, t => by
    have hensure : ∀ t : FileTree, MoreDirectories (fun q => ∃ r ∈ p :: above, q <+: t.intended r) t
        (t.ensureDirectory p).2 := fun t =>
      (moreDirectories_ensureDirectory t p).mono fun q hq => ⟨p, List.mem_cons_self, hq⟩
    have habove := (moreDirectories_makeChain above t).mono fun q ⟨r, hr, hq⟩ =>
      (⟨r, List.mem_cons_of_mem _ hr, hq⟩ : ∃ r ∈ p :: above, q <+: t.intended r)
    rw [makeChain_cons]
    split
    · split
      · rename_i s hs
        -- what was made above does not change what the path is meant for
        rw [hs] at habove
        refine habove.trans ((hensure s).mono fun q ⟨r, hr, hq⟩ => ⟨r, hr, ?_⟩)
        rwa [← habove.intended]
      · exact habove
    · exact hensure t

theorem createDirectories_of_components (h : p.components ≠ []) :
    ∃ above, t.createDirectories p = t.makeChain (p :: above) := by
  unfold createDirectories ancestors
  obtain ⟨c, cs, hc⟩ := List.exists_cons_of_ne_nil h
  rw [hc, List.length_cons, chain]
  exact ⟨_, rfl⟩

/-- Making a directory that is there changes nothing. -/
theorem createDirectories_of_directory {r : List String} (hb : t.base p = .ok r)
    (hd : t.node? r = some .directory) : t.createDirectories p.stem = (.ok (), t) := by
  by_cases hne : p.stem.components = []
  · unfold createDirectories ancestors
    rw [hne, List.length_nil, chain, makeChain]
  · -- without the void parts at its end, the path leads to the same directory
    have hstem := base_stem hb hne
    have hthere : t.isDirectory p.stem = true := by
      unfold isDirectory
      rw [lookup_eq_ok_iff.2
        ⟨r, resolve_eq_ok_iff_base.2 ⟨text_ne_empty_of_components hne, hstem⟩, hd⟩]
    obtain ⟨above, heq⟩ := createDirectories_of_components hne
    rw [heq, makeChain_cons]
    unfold ensureDirectory
    rw [makeDirectory_of_directory hne hstem hd]
    simp only [hthere, if_true]

theorem base_of_isDirectory (h : t.isDirectory p = true) :
    ∃ r, t.base p = .ok r ∧ t.node? r = some .directory := by
  unfold isDirectory at h
  split at h
  · rename_i hlookup
    obtain ⟨r, hr, hd⟩ := lookup_eq_ok_iff.1 hlookup
    exact ⟨r, (resolve_eq_ok_iff_base.1 hr).2, hd⟩
  · cases h

/-- Below a directory that is there, one directory is made at most. -/
theorem moreDirectories_createDirectories_join {name : String} (h : Plain name) {r : List String}
    (hb : t.base p = .ok r) (hd : t.node? r = some .directory) :
    MoreDirectories (· <+: t.intended (p.join name)) t (t.createDirectories (p.join name)).2 := by
  obtain ⟨above, heq⟩ := createDirectories_of_components (t := t) (p := p.join name)
    (by simp [components_join h])
  rw [heq, makeChain_cons]
  split
  · rename_i hmiss
    exact absurd hmiss (makeDirectory_join_ne_notFound h hb hd)
  · exact moreDirectories_ensureDirectory t (p.join name)

theorem prefix_of_mem_chain : ∀ {n : Nat} {p r : Path}, r ∈ chain n p →
    r.components <+: p.components ∧ r.isAbsolute = p.isAbsolute
  | 0, _, _, h => by cases h
  | n + 1, p, r, h => by
    rw [chain] at h
    rcases List.mem_cons.1 h with rfl | h
    · exact ⟨List.prefix_rfl, rfl⟩
    · cases hq : p.parent? with
      | none => rw [hq] at h; cases h
      | some q =>
        rw [hq, Option.map_some, Option.getD_some] at h
        obtain ⟨hpq, habs⟩ := of_parent?_eq_some hq
        obtain ⟨hqr, habs'⟩ := prefix_of_mem_chain h
        exact ⟨hqr.trans hpq, habs'.trans habs⟩

theorem intended_of_forall_ne_up (h : ".." ∉ p.components) :
    t.intended p = t.start p ++ p.components := by
  unfold intended start
  generalize (if p.isAbsolute then [] else t.workDir) = place
  generalize p.components = parts at h ⊢
  induction parts generalizing place with
  | nil => rw [List.foldl_nil, List.append_nil]
  | cons part parts ih =>
    rw [List.mem_cons, not_or] at h
    rw [List.foldl_cons, if_neg (Ne.symm h.1), ih _ h.2, List.append_assoc, List.singleton_append]

/-- On a path that never goes up, only directories on the way to its place are made. -/
theorem moreDirectories_createDirectories (h : ".." ∉ p.components) :
    MoreDirectories (· <+: t.intended p) t (t.createDirectories p).2 := by
  refine (moreDirectories_makeChain p.ancestors t).mono fun q ⟨r, hr, hq⟩ => hq.trans ?_
  obtain ⟨hinit, habs⟩ := prefix_of_mem_chain hr
  rw [intended_of_forall_ne_up h, intended_of_forall_ne_up fun hmem => h (hinit.subset hmem),
    start, habs, ← start]
  exact (List.prefix_append_right_inj _).2 hinit

/-- Nothing is made elsewhere for a directory that is there, or whose path only goes down. -/
theorem moreDirectories_createDirectories_stem (h : t.isDirectory p = true ∨ ".." ∉ p.components) :
    MoreDirectories (· <+: t.intended p) t (t.createDirectories p.stem).2 := by
  rcases h with hthere | hup
  · obtain ⟨r, hb, hd⟩ := base_of_isDirectory hthere
    rw [createDirectories_of_directory hb hd]
    exact MoreDirectories.refl t
  · have hintended : t.intended p.stem = t.intended p := by
      unfold intended
      rw [components_stem, isAbsolute_stem]
    exact hintended ▸ moreDirectories_createDirectories (by rwa [components_stem])

end DocSearch.FileTree
