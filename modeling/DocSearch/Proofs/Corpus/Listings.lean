/-
The order in which the files of a corpus are listed. A file takes the place of what its document had
of its kind, so the order of two files matters exactly where both are for one document, of one kind,
and say different things. A document has one name of a kind without leading zeros, and files of one
directory have different names, so only names with leading zeros bring this about.
-/
import Mathlib.Data.List.Basic
import DocSearch.Corpus.Basic
import DocSearch.Proofs.FileTree.Files

namespace DocSearch.Corpus

open Text
open scoped List

/-! ## One file -/

/-- What the text of a file makes of its document. -/
def setText : FileKind → String → CorpusDoc → CorpusDoc
  | .tokens, s, d => { d with tokens := some (readTokens s) }
  | .lemmas, s, d => { d with lemmas := some (readLemmas s) }

/-- Whether two texts of a kind say the same. -/
def SameReading : FileKind → String → String → Prop
  | .tokens, s, s' => readTokens s = readTokens s'
  | .lemmas, s, s' => readLemmas s = readLemmas s'

theorem SameReading.refl : ∀ (kind : FileKind) (s : String), SameReading kind s s
  | .tokens, _ => rfl
  | .lemmas, _ => rfl

theorem SameReading.symm : ∀ {kind : FileKind} {s s' : String}, SameReading kind s s' →
    SameReading kind s' s
  | .tokens, _, _, h => Eq.symm h
  | .lemmas, _, _, h => Eq.symm h

/-- Texts of different kinds go to different places, and texts that say the same are as good as one. -/
theorem setText_comm {kind kind' : FileKind} {s s' : String}
    (h : kind = kind' → SameReading kind s s') (d : CorpusDoc) :
    setText kind' s' (setText kind s d) = setText kind s (setText kind' s' d) := by
  cases kind <;> cases kind'
  · have hsame : readTokens s = readTokens s' := h rfl
    simp only [setText, hsame]
  · rfl
  · rfl
  · have hsame : readLemmas s = readLemmas s' := h rfl
    simp only [setText, hsame]

/-- The later of two texts of a kind stays, so it shows which of them that was. -/
theorem sameReading_of_setText_eq {kind : FileKind} {s s' : String} {d d' : CorpusDoc}
    (h : setText kind s d = setText kind s' d') : SameReading kind s s' := by
  cases kind with
  | tokens => exact Option.some.inj (congrArg CorpusDoc.tokens h)
  | lemmas => exact Option.some.inj (congrArg CorpusDoc.lemmas h)

variable {c : Corpus} {kind kind' : FileKind} {doc doc' : DocId} {s s' : String}

theorem addText_eq_insert :
    c.addText kind doc s = c.insert doc (setText kind s (c.docOf doc)) := by
  cases kind <;> rfl

theorem getElem?_addText (corpus : Corpus) : (corpus.addText kind doc s)[doc']? =
    if doc = doc' then some (setText kind s (corpus.docOf doc)) else corpus[doc']? := by
  rw [addText_eq_insert, Std.ExtTreeMap.getElem?_insert]
  simp only [Std.LawfulEqCmp.compare_eq_iff_eq]

theorem docOf_addText : (c.addText kind doc s).docOf doc' =
    if doc = doc' then setText kind s (c.docOf doc) else c.docOf doc' := by
  rw [docOf, getElem?_addText]
  split <;> rfl

theorem addText_comm (h : kind = kind' → doc = doc' → SameReading kind s s') :
    (c.addText kind doc s).addText kind' doc' s' = (c.addText kind' doc' s').addText kind doc s := by
  refine Std.ExtTreeMap.ext_getElem? fun other => ?_
  simp only [getElem?_addText, docOf_addText]
  by_cases hdoc : doc = doc'
  · subst hdoc
    simp only [if_true, setText_comm fun hkind => h hkind rfl]
    split <;> rfl
  · simp only [if_neg hdoc, if_neg (Ne.symm hdoc)]
    split
    · rename_i hother
      rw [if_neg fun hd => hdoc (hd.trans hother.symm)]
    · rfl

/-! ## All files -/

/-- Whether a file is one of a corpus, by its name, and not a text. -/
def Unreadable (f : ListedFile) : Prop := (fileRole? f.name).isSome ∧ decode? f.bytes = none

instance (f : ListedFile) : Decidable (Unreadable f) :=
  inferInstanceAs (Decidable ((fileRole? f.name).isSome ∧ decode? f.bytes = none))

/-- The failure over a file that is not a text. -/
def readingFailure (f : ListedFile) : Failure := .context ("reading " ++ f.path.text) (.io .notUtf8)

/-- Takes a listed file, or leaves it out if it is not a text. -/
def take (c : Corpus) (f : ListedFile) : Corpus :=
  match fileRole? f.name, decode? f.bytes with
  | some (kind, doc), some s => c.addText kind doc s
  | _, _ => c

/-- A file changes nothing, or it is a text of a kind for a document. -/
theorem take_cases (f : ListedFile) : (∀ c, take c f = c) ∨ ∃ kind doc s,
    fileRole? f.name = some (kind, doc) ∧ decode? f.bytes = some s ∧
      ∀ c, take c f = c.addText kind doc s := by
  unfold take
  cases fileRole? f.name with
  | none => exact .inl fun c => rfl
  | some role =>
    cases decode? f.bytes with
    | none => exact .inl fun c => rfl
    | some s => exact .inr ⟨role.1, role.2, s, rfl, rfl, fun c => rfl⟩

theorem addFile_of_unreadable {f : ListedFile} (h : Unreadable f) :
    c.addFile f = .error (readingFailure f) := by
  obtain ⟨⟨kind, doc⟩, hrole⟩ := Option.isSome_iff_exists.1 h.1
  simp only [addFile, hrole, h.2, readingFailure]

theorem addFile_of_not_unreadable {f : ListedFile} (h : ¬Unreadable f) :
    c.addFile f = .ok (c.take f) := by
  unfold addFile take
  cases hrole : fileRole? f.name with
  | none => rfl
  | some role =>
    cases hs : decode? f.bytes with
    | some s => rfl
    | none => exact absurd ⟨Option.isSome_iff_exists.2 ⟨role, hrole⟩, hs⟩ h

theorem foldlM_addFile : ∀ {fs : List ListedFile} {c : Corpus}, (∀ f ∈ fs, ¬Unreadable f) →
    fs.foldlM addFile c = .ok (fs.foldl take c)
  | [], _, _ => rfl
  | f :: fs, c, h => by
    rw [List.foldlM_cons, addFile_of_not_unreadable (h f List.mem_cons_self)]
    exact foldlM_addFile fun g hg => h g (List.mem_cons_of_mem f hg)

/-- Files that can all be read make a corpus. -/
theorem ofFiles_of_readable {fs : List ListedFile} (h : ∀ f ∈ fs, ¬Unreadable f) :
    ofFiles fs = .ok (fs.foldl take ∅) := foldlM_addFile h

/-- Reading fails over the first file that is not a text, wherever it stands. -/
theorem exists_foldlM_addFile_eq_error : ∀ {fs : List ListedFile} {c : Corpus} {f : ListedFile},
    f ∈ fs → Unreadable f →
      ∃ bad ∈ fs, Unreadable bad ∧ fs.foldlM addFile c = .error (readingFailure bad)
  | g :: fs, c, f, hmem, hf => by
    rw [List.foldlM_cons]
    by_cases hg : Unreadable g
    · rw [addFile_of_unreadable hg]
      exact ⟨g, List.mem_cons_self, hg, rfl⟩
    · have hrest : f ∈ fs := (List.mem_cons.1 hmem).resolve_left fun he => hg (he ▸ hf)
      rw [addFile_of_not_unreadable hg]
      obtain ⟨bad, hbad, hun, herr⟩ := exists_foldlM_addFile_eq_error (c := c.take g) hrest hf
      exact ⟨bad, List.mem_cons_of_mem g hbad, hun, herr⟩

theorem exists_ofFiles_eq_error {fs : List ListedFile} (h : ∃ f ∈ fs, Unreadable f) :
    ∃ bad ∈ fs, Unreadable bad ∧ ofFiles fs = .error (readingFailure bad) := by
  obtain ⟨f, hmem, hf⟩ := h
  exact exists_foldlM_addFile_eq_error hmem hf

/-! ## Orders -/

/-- Whether two files are of one kind, for one document, and say different things. -/
def Conflict (f g : ListedFile) : Prop :=
  ∃ kind doc s s', fileRole? f.name = some (kind, doc) ∧ fileRole? g.name = some (kind, doc) ∧
    decode? f.bytes = some s ∧ decode? g.bytes = some s' ∧ ¬SameReading kind s s'

theorem ne_of_conflict {f g : ListedFile} (h : Conflict f g) : g ≠ f := by
  obtain ⟨kind, doc, s, s', -, -, hs, hs', hne⟩ := h
  rintro rfl
  cases hs.symm.trans hs'
  exact hne (.refl kind s)

/-- Whether both readings fail or both give one corpus. -/
def SameOutcome (r r' : Except Failure Corpus) : Prop :=
  (∃ e e', r = .error e ∧ r' = .error e') ∨ ∃ c, r = .ok c ∧ r' = .ok c

/-- Whether reading comes out the same in whatever order the files are listed. -/
def OrderFree (fs : List ListedFile) : Prop :=
  ∀ gs gs', gs.Perm fs → gs'.Perm fs → SameOutcome (ofFiles gs) (ofFiles gs')

theorem take_comm {f g : ListedFile} (h : ¬Conflict f g) :
    (c.take f).take g = (c.take g).take f := by
  obtain hf | ⟨kind, doc, s, hf, hs, htake⟩ := take_cases f
  · rw [hf, hf]
  obtain hg | ⟨kind', doc', s', hg, hs', htake'⟩ := take_cases g
  · rw [hg, hg]
  rw [htake, htake, htake', htake']
  refine addText_comm ?_
  rintro rfl rfl
  exact not_not.1 fun hne => h ⟨_, _, s, s', hf, hg, hs, hs', hne⟩

/-- Each of two files of which the order matters leaves its own text where it comes last. -/
theorem take_ne {f g : ListedFile} (h : Conflict f g) {c' : Corpus} :
    (c.take f).take g ≠ (c'.take g).take f := by
  obtain ⟨kind, doc, s, s', hf, hg, hs, hs', hne⟩ := h
  simp only [take, hf, hg, hs, hs']
  intro he
  have hlast := congrArg (fun corpus : Corpus => corpus[doc]?) he
  simp only [getElem?_addText, if_true, Option.some.injEq] at hlast
  exact hne (sameReading_of_setText_eq hlast).symm

theorem exists_perm_of_mem {f g : ListedFile} {fs : List ListedFile} (hf : f ∈ fs) (hg : g ∈ fs)
    (hne : g ≠ f) : ∃ rest, (rest ++ [f, g]).Perm fs := by
  obtain ⟨left, right, rfl⟩ := List.append_of_mem hf
  have hg : g ∈ left ++ right := by
    rw [List.mem_append] at hg ⊢
    exact hg.imp_right fun h => (List.mem_cons.1 h).resolve_left hne
  obtain ⟨left', right', hsplit⟩ := List.append_of_mem hg
  refine ⟨left' ++ right', ?_⟩
  calc left' ++ right' ++ [f, g]
    _ ~ f :: g :: (left' ++ right') := List.perm_append_comm
    _ ~ f :: (left' ++ g :: right') := .cons f List.perm_middle.symm
    _ = f :: (left ++ right) := by rw [hsplit]
    _ ~ left ++ f :: right := List.perm_middle.symm

theorem orderFree_of_conflictFree {fs : List ListedFile}
    (h : (∃ f ∈ fs, Unreadable f) ∨ ∀ f ∈ fs, ∀ g ∈ fs, ¬Conflict f g) : OrderFree fs := by
  intro gs gs' hgs hgs'
  by_cases hbad : ∃ f ∈ fs, Unreadable f
  · obtain ⟨f, hmem, hf⟩ := hbad
    obtain ⟨_, -, -, herr⟩ := exists_ofFiles_eq_error ⟨f, hgs.mem_iff.2 hmem, hf⟩
    obtain ⟨_, -, -, herr'⟩ := exists_ofFiles_eq_error ⟨f, hgs'.mem_iff.2 hmem, hf⟩
    exact .inl ⟨_, _, herr, herr'⟩
  · have hfree := h.resolve_left hbad
    have hread : ∀ f ∈ fs, ¬Unreadable f := fun f hmem hf => hbad ⟨f, hmem, hf⟩
    refine .inr ⟨gs.foldl take ∅, ofFiles_of_readable fun f hf => hread f (hgs.mem_iff.1 hf), ?_⟩
    rw [ofFiles_of_readable fun f hf => hread f (hgs'.mem_iff.1 hf)]
    congr 1
    refine List.Perm.foldl_eq' (hgs'.trans hgs.symm) (fun f hf g hg c => ?_) ∅
    exact take_comm (hfree f (hgs'.mem_iff.1 hf) g (hgs'.mem_iff.1 hg))

theorem conflictFree_of_orderFree {fs : List ListedFile} (h : OrderFree fs) :
    (∃ f ∈ fs, Unreadable f) ∨ ∀ f ∈ fs, ∀ g ∈ fs, ¬Conflict f g := by
  by_cases hbad : ∃ f ∈ fs, Unreadable f
  · exact .inl hbad
  · refine .inr fun f hf g hg hconflict => ?_
    have hread : ∀ gs, gs ~ fs → ofFiles gs = .ok (gs.foldl take ∅) := fun gs hgs =>
      ofFiles_of_readable fun f hf hun => hbad ⟨f, hgs.mem_iff.1 hf, hun⟩
    obtain ⟨rest, hperm⟩ := exists_perm_of_mem hf hg (ne_of_conflict hconflict)
    have hswap : rest ++ [g, f] ~ fs := (List.Perm.append_left rest (.swap f g [])).trans hperm
    obtain ⟨e, -, he, -⟩ | ⟨c, hc, hc'⟩ := h _ _ hperm hswap
    · rw [hread _ hperm] at he
      cases he
    · rw [hread _ hperm] at hc
      rw [hread _ hswap] at hc'
      have hsame := Except.ok.inj (hc.trans hc'.symm)
      simp only [List.foldl_append, List.foldl_cons, List.foldl_nil] at hsame
      exact take_ne hconflict hsame

/-- Whether a file for a document has the name that the number of the document is written in. -/
def HasWrittenName (f : ListedFile) : Prop :=
  ∀ kind doc, fileRole? f.name = some (kind, doc) → f.name = kind.label ++ doc.text ++ ".txt"

/-- **The order of the files.** The order in which the files of a directory are listed makes no
difference to the corpus exactly if one of them cannot be read, so that reading fails in every order,
or no two of them are for one document and of one kind and say different things. This is so wherever
the files have the names that their documents' numbers are written in, without leading zeros. -/
theorem orderFree_iff (t : FileTree) (dir : Path) :
    (OrderFree (t.filesAt dir) ↔ (∃ f ∈ t.filesAt dir, Unreadable f) ∨
      ∀ f ∈ t.filesAt dir, ∀ g ∈ t.filesAt dir, ¬Conflict f g) ∧
    ((∀ f ∈ t.filesAt dir, HasWrittenName f) → OrderFree (t.filesAt dir)) := by
  refine ⟨⟨conflictFree_of_orderFree, orderFree_of_conflictFree⟩, fun hnames => ?_⟩
  refine orderFree_of_conflictFree (.inr fun f hf g hg hconflict => ne_of_conflict hconflict ?_)
  obtain ⟨kind, doc, -, -, hf', hg', -⟩ := hconflict
  have hname := (hnames g hg kind doc hg').trans (hnames f hf kind doc hf').symm
  exact FileTree.eq_of_mem_filesAt hg hf hname

/-- A tree with a corpus of two documents in files of the usual names. -/
def plainTree : FileTree :=
  (((FileTree.empty.putDirectory ["corpus"]).putFile ["corpus", "tokens1.txt"] "cat\n".toUTF8).putFile
    ["corpus", "lemmas1.txt"] "cat cat\n".toUTF8).putFile ["corpus", "tokens10.txt"] "dog\n".toUTF8

theorem orderFree_plainTree : (∀ f ∈ plainTree.filesAt ⟨"corpus"⟩, HasWrittenName f) ∧
    OrderFree (plainTree.filesAt ⟨"corpus"⟩) := by
  have hnames : ∀ f ∈ plainTree.filesAt ⟨"corpus"⟩, HasWrittenName f := by
    have hall : ∀ f ∈ plainTree.filesAt ⟨"corpus"⟩, ∀ role ∈ fileRole? f.name,
      f.name = role.1.label ++ role.2.text ++ ".txt" := by decide +kernel
    exact fun f hf kind doc hrole => hall f hf (kind, doc) hrole
  exact ⟨hnames, (orderFree_iff plainTree ⟨"corpus"⟩).2 hnames⟩

/-- A tree with a corpus that has two files for the tokens of one document. -/
def aliasTree : FileTree :=
  ((FileTree.empty.putDirectory ["corpus"]).putFile ["corpus", "tokens1.txt"] "cat\n".toUTF8).putFile
    ["corpus", "tokens01.txt"] "dog\n".toUTF8

theorem not_orderFree_aliasTree : ¬OrderFree (aliasTree.filesAt ⟨"corpus"⟩) ∧
    (ofFiles (aliasTree.filesAt ⟨"corpus"⟩)).map (·.toList) = .ok [(1, ⟨some ["cat"], none⟩)] ∧
    (ofFiles (aliasTree.filesAt ⟨"corpus"⟩).reverse).map (·.toList) =
      .ok [(1, ⟨some ["dog"], none⟩)] := by
  have hcat : (ofFiles (aliasTree.filesAt ⟨"corpus"⟩)).map (·.toList) =
      .ok [(1, ⟨some ["cat"], none⟩)] := by decide +kernel
  have hdog : (ofFiles (aliasTree.filesAt ⟨"corpus"⟩).reverse).map (·.toList) =
      .ok [(1, ⟨some ["dog"], none⟩)] := by decide +kernel
  refine ⟨fun h => ?_, hcat, hdog⟩
  obtain ⟨e, -, he, -⟩ | ⟨c, hc, hc'⟩ := h _ _ (.refl _) (List.reverse_perm _)
  · rw [he] at hcat
    cases hcat
  · rw [hc] at hcat
    rw [hc'] at hdog
    exact absurd ((Except.ok.inj hcat).symm.trans (Except.ok.inj hdog)) (by decide)

end DocSearch.Corpus
