/-
What a term space is loaded as. If the entries of the directory for weights that have a name for the
space are texts of different documents, then these texts are all that counts: the space has a vector
for each of them with the last record of every term, and the frequencies of the lowest documents,
in whatever order the files are listed and read.
-/
import DocSearch.Proofs.Snapshot.SpaceLoad
import DocSearch.Proofs.Weights.Grammar

namespace DocSearch

open DocSearch.Path Text

namespace Snapshot

variable {space : Space} {entries : List (String × Node)}

/-! ## Texts of documents -/

/-- Whether a directory with these entries has a text for a document. -/
def HasText (space : Space) (entries : List (String × Node)) (doc : DocId) (text : String) : Prop :=
  ∃ name, (name, .file text.toUTF8) ∈ entries ∧ weightsDoc? space name = some doc

/-- Whether the entries with a name for a space are texts, and no two of them of one document. -/
structure OneTextEach (space : Space) (entries : List (String × Node)) : Prop where
  text : ∀ e ∈ entries, ∀ doc, weightsDoc? space e.1 = some doc →
    ∃ text : String, e.2 = .file text.toUTF8
  unique : ∀ e ∈ entries, ∀ e' ∈ entries, ∀ doc,
    weightsDoc? space e.1 = some doc → weightsDoc? space e'.1 = some doc → e = e'

/-- The text of a file, if it is one. -/
def text? : Node → Option String
  | .file bytes => decode? bytes
  | .directory => none

theorem text?_eq_some_iff {n : Node} {text : String} : text? n = some text ↔ n = .file text.toUTF8 := by
  cases n with
  | file bytes => rw [text?, decode?_eq_some_iff, Node.file.injEq]
  | directory => rw [text?]; constructor <;> rintro ⟨⟩

/-- Texts of different documents are told by their names. -/
theorem oneTextEach_of_nodup
    (htext : ∀ e ∈ entries, (weightsDoc? space e.1).isSome → (text? e.2).isSome)
    (hdocs : ((entries.map fun e => weightsDoc? space e.1).filter Option.isSome).Nodup) :
    OneTextEach space entries where
  text e he doc hdoc := by
    obtain ⟨text, ht⟩ := Option.isSome_iff_exists.1 (htext e he (hdoc ▸ rfl))
    exact ⟨text, text?_eq_some_iff.1 ht⟩
  unique e he e' he' doc hdoc hdoc' := by
    rw [List.filter_map] at hdocs
    exact List.inj_on_of_nodup_map hdocs (List.mem_filter.2 ⟨he, congrArg Option.isSome hdoc⟩)
      (List.mem_filter.2 ⟨he', congrArg Option.isSome hdoc'⟩) (hdoc.trans hdoc'.symm)

theorem HasText.inj (h : OneTextEach space entries) {doc : DocId} {text text' : String}
    (ht : HasText space entries doc text) (ht' : HasText space entries doc text') : text = text' := by
  obtain ⟨name, hmem, hname⟩ := ht
  obtain ⟨name', hmem', hname'⟩ := ht'
  have heq := h.unique _ hmem _ hmem' doc hname hname'
  rw [Prod.mk.injEq, Node.file.injEq] at heq
  exact toUTF8_inj heq.2

/-- Texts of documents in ascending order that are those of a directory. -/
structure TextsOf (space : Space) (entries : List (String × Node)) (texts : List (DocId × String)) :
    Prop where
  pairwise : texts.Pairwise fun f f' => f.1 ≤ f'.1
  mem : ∀ f, f ∈ texts ↔ HasText space entries f.1 f.2

namespace TextsOf

variable {texts texts' : List (DocId × String)} (h : OneTextEach space entries)
  (ht : TextsOf space entries texts)
include h ht

theorem ascending : TermSpace.Ascending (texts.map fun f => (f.1, WeightFile.ofText f.2)) where
  pairwise := List.pairwise_map.2 ht.pairwise
  unique d hd d' hd' hdoc := by
    obtain ⟨f, hf, rfl⟩ := List.mem_map.1 hd
    obtain ⟨f', hf', rfl⟩ := List.mem_map.1 hd'
    have hdoc : f.1 = f'.1 := hdoc
    have htext := HasText.inj h ((ht.mem f).1 hf) (hdoc ▸ (ht.mem f').1 hf')
    rw [Prod.ext hdoc htext]

/-- The space of the texts is the same whatever the entries beside them are. -/
theorem spaceOfTexts_eq (ht' : TextsOf space entries texts') :
    spaceOfTexts texts' = spaceOfTexts texts := by
  refine (ht'.ascending h).ofDocuments_congr (ht.ascending h) fun d => ?_
  rw [List.mem_map, List.mem_map]
  simp only [ht.mem, ht'.mem]

/-- There is a vector for each text, and it has the last records of the terms. -/
theorem getElem?_vectors {doc : DocId} {v : TermVector Binary64} :
    (spaceOfTexts texts).vectors[doc]? = some v ↔
      ∃ text, HasText space entries doc text ∧ TermVector.ofRecords (WeightFile.ofText text) = v := by
  unfold spaceOfTexts
  rw [(ht.ascending h).getElem?_vectors]
  constructor
  · rintro ⟨d, hd, rfl, rfl⟩
    obtain ⟨f, hf, rfl⟩ := List.mem_map.1 hd
    exact ⟨f.2, (ht.mem f).1 hf, rfl⟩
  · rintro ⟨text, htext, rfl⟩
    exact ⟨_, List.mem_map.2 ⟨(doc, text), (ht.mem (doc, text)).2 htext, rfl⟩, rfl, rfl⟩

/-- A term has the frequency of its first record in the text of the lowest document with one. -/
theorem getElem?_idf {term : String} {x : Binary64} : (spaceOfTexts texts).idf[term]? = some x ↔
    ∃ doc text, HasText space entries doc text ∧
      (∃ r, (WeightFile.ofText text).find? (·.term = term) = some r ∧ r.idf = x) ∧
      ∀ doc' text', HasText space entries doc' text' →
        (∃ r ∈ WeightFile.ofText text', r.term = term) → doc ≤ doc' := by
  unfold spaceOfTexts
  rw [(ht.ascending h).getElem?_idf]
  constructor
  · rintro ⟨d, hd, hr, hle⟩
    obtain ⟨f, hf, rfl⟩ := List.mem_map.1 hd
    refine ⟨f.1, f.2, (ht.mem f).1 hf, hr, fun doc' text' htext hterm => ?_⟩
    exact hle _ (List.mem_map.2 ⟨(doc', text'), (ht.mem (doc', text')).2 htext, rfl⟩) hterm
  · rintro ⟨doc, text, htext, hr, hle⟩
    refine ⟨_, List.mem_map.2 ⟨(doc, text), (ht.mem (doc, text)).2 htext, rfl⟩, hr, fun d hd hterm => ?_⟩
    obtain ⟨f, hf, rfl⟩ := List.mem_map.1 hd
    exact hle f.1 f.2 ((ht.mem f).1 hf) hterm

end TextsOf

theorem pairwise_mergeSort_fst {β : Type} (l : List (DocId × β)) :
    (l.mergeSort fun f f' => f.1 ≤ f'.1).Pairwise fun f f' => f.1 ≤ f'.1 := by
  refine (List.pairwise_mergeSort (fun a b c hab hbc => ?_) (fun a b => ?_) l).imp of_decide_eq_true
  · exact decide_eq_true (UInt32.le_trans (of_decide_eq_true hab) (of_decide_eq_true hbc))
  · simpa using UInt32.le_total a.1 b.1

/-- Texts that arrive in any order are put in ascending order of their documents. -/
theorem textsOf_mergeSort {arrived : List (DocId × String)}
    (hmem : ∀ f, f ∈ arrived ↔ HasText space entries f.1 f.2) :
    TextsOf space entries (arrived.mergeSort fun f f' => f.1 ≤ f'.1) where
  pairwise := pairwise_mergeSort_fst arrived
  mem f := by rw [(List.mergeSort_perm _ _).mem_iff, hmem]

/-! ## Loading -/

variable {s : Snapshot} {t : FileTree} {place : List String}

theorem fst_of_readWeights {f g : DocId × String} (h : s.readWeights t f = .ok g) : g.1 = f.1 := by
  unfold readWeights at h
  cases hr : t.readText (s.weightsDir.join f.2) with
  | error e => rw [hr] at h; cases h
  | ok text => rw [hr] at h; cases h; rfl

theorem map_fst_of_readWeights : ∀ {files texts : List (DocId × String)},
    files.mapM (s.readWeights t) = .ok texts → texts.map (·.1) = files.map (·.1)
  | [], _, h => by cases h; rfl
  | f :: files, _, h => by
    obtain ⟨g, texts, hg, htexts, rfl⟩ := mapM_cons_eq_ok_iff.1 h
    rw [List.map_cons, List.map_cons, fst_of_readWeights hg, map_fst_of_readWeights htexts]

/-- Whatever order the names are in, their texts are read in ascending order of the documents. -/
theorem At.exists_textsOf (h : s.At place t)
    (htexts : OneTextEach space (t.children (place ++ ["weights"]))) {names : List String}
    (hnames : names.Perm ((t.children (place ++ ["weights"])).map (·.1))) : ∃ texts,
      s.loadListedSpace t space names = .ok (spaceOfTexts texts) ∧
        TextsOf space (t.children (place ++ ["weights"])) texts := by
  have hmem : ∀ f, f ∈ weightFiles space names ↔ weightsDoc? space f.2 = some f.1 ∧
      ∃ n, (f.2, n) ∈ t.children (place ++ ["weights"]) := fun f => by
    rw [mem_weightFiles, hnames.mem_iff, and_comm, List.mem_map]
    simp
  -- the names that are read are those of texts, so none of them fails
  obtain ⟨texts, hread⟩ : ∃ texts, (weightFiles space names).mapM (s.readWeights t) = .ok texts := by
    refine exists_mapM_eq_ok_iff.2 fun ⟨doc, name⟩ hf => ?_
    obtain ⟨hname, n, hn⟩ := (hmem _).1 hf
    obtain ⟨text, rfl⟩ := htexts.text _ hn doc hname
    exact ⟨(doc, text), (h.readWeights_eq_ok_iff hname).2 ⟨rfl, FileTree.mem_children.1 hn⟩⟩
  refine ⟨texts, ?_, ?_, fun f => ?_⟩
  · unfold loadListedSpace
    change ((weightFiles space names).mapM (s.readWeights t) >>= _) = _
    rw [hread]
    rfl
  · -- reading keeps the documents in place, and their names were sorted by them
    have hdocs : texts.map (·.1) = (weightFiles space names).map (·.1) :=
      map_fst_of_readWeights hread
    rw [← List.pairwise_map (f := fun f : DocId × String => f.1), hdocs, List.pairwise_map]
    exact pairwise_mergeSort_fst _
  · rw [mem_of_mapM_eq_ok hread]
    constructor
    · rintro ⟨⟨doc, name⟩, hf, hg⟩
      obtain ⟨hname, n, hn⟩ := (hmem _).1 hf
      obtain ⟨rfl, hn⟩ := (h.readWeights_eq_ok_iff hname).1 hg
      exact ⟨name, FileTree.mem_children.2 hn, hname⟩
    · rintro ⟨name, hn, hname⟩
      exact ⟨(f.1, name), (hmem _).2 ⟨hname, _, hn⟩,
        (h.readWeights_eq_ok_iff hname).2 ⟨rfl, FileTree.mem_children.1 hn⟩⟩

/-- What a space is like that is made of the texts of a directory: it has a vector for each of them,
which has the weight of the last record of every term, and for every term the frequency of the first
record in the text of the lowest document that has a record of it. -/
structure MadeOf (space : Space) (entries : List (String × Node)) (sp : TermSpace Binary64) : Prop where
  docs : ∀ doc, (∃ v, sp.vectors[doc]? = some v) ↔ ∃ text, HasText space entries doc text
  weight : ∀ doc text, HasText space entries doc text → ∃ v, sp.vectors[doc]? = some v ∧ ∀ term,
    v[term]? = ((WeightFile.ofText text).reverse.find? (·.term = term)).map (·.tfidf)
  idf : ∀ term x, sp.idf[term]? = some x ↔ ∃ doc text, HasText space entries doc text ∧
    (∃ r, (WeightFile.ofText text).find? (·.term = term) = some r ∧ r.idf = x) ∧
    ∀ doc' text', HasText space entries doc' text' →
      (∃ r ∈ WeightFile.ofText text', r.term = term) → doc ≤ doc'

theorem TextsOf.madeOf {texts : List (DocId × String)} (h : OneTextEach space entries)
    (ht : TextsOf space entries texts) : MadeOf space entries (spaceOfTexts texts) where
  docs doc := by
    simp only [ht.getElem?_vectors h]
    constructor
    · rintro ⟨-, text, htext, -⟩; exact ⟨text, htext⟩
    · rintro ⟨text, htext⟩; exact ⟨_, text, htext, rfl⟩
  weight doc text htext :=
    ⟨_, (ht.getElem?_vectors h).2 ⟨text, htext, rfl⟩, TermVector.getElem?_ofRecords _⟩
  idf _ _ := ht.getElem?_idf h

theorem loadSpace_eq_loadListedSpace (hlist : t.listDirectory s.weightsDir = .ok entries) :
    s.loadSpace t space = s.loadListedSpace t space (entries.map (·.1)) := by
  unfold loadSpace
  rw [hlist]
  rfl

/-- The texts of a directory are read, in whatever order their names are listed. -/
theorem exists_textsOf (hlist : t.listDirectory s.weightsDir = .ok entries)
    (h : OneTextEach space entries) {names : List String} (hnames : names.Perm (entries.map (·.1))) :
    ∃ texts, s.loadListedSpace t space names = .ok (spaceOfTexts texts) ∧
      TextsOf space entries texts := by
  obtain ⟨q, hq, hweights, rfl⟩ := FileTree.listDirectory_eq_ok_iff.1 hlist
  obtain ⟨place, hbase, hroot, rfl⟩ := (FileTree.resolve_join_eq_ok_iff plain_weights).1 hq
  exact At.exists_textsOf ⟨hbase, hroot, hweights⟩ h hnames

/-- If the entries with a name for a space are texts of different documents, the space is loaded, and
it is made of these texts, whose records are those among their lines: three words, the term in
lowercase and two finite numbers. It is the same for every order in which the files are listed, for
every order in which their texts arrive, and in every directory that has the same such entries. -/
theorem loadSpace_of_oneTextEach (hlist : t.listDirectory s.weightsDir = .ok entries)
    (h : OneTextEach space entries) : ∃ sp, s.loadSpace t space = .ok sp ∧ MadeOf space entries sp ∧
      (∀ doc text, HasText space entries doc text → ∀ rs,
        WeightFile.Accepts (stringLines text) rs ↔ WeightFile.ofText text = rs) ∧
      (∀ names, names.Perm (entries.map (·.1)) → s.loadListedSpace t space names = .ok sp) ∧
      (∀ arrived : List (DocId × String), (∀ f, f ∈ arrived ↔ HasText space entries f.1 f.2) →
        spaceOfTexts (arrived.mergeSort fun f f' => f.1 ≤ f'.1) = sp) ∧
      ∀ (s' : Snapshot) (t' : FileTree) (entries' : List (String × Node)),
        t'.listDirectory s'.weightsDir = .ok entries' →
        (∀ name n doc, weightsDoc? space name = some doc →
          ((name, n) ∈ entries' ↔ (name, n) ∈ entries)) → s'.loadSpace t' space = .ok sp := by
  obtain ⟨texts, hload, ht⟩ := exists_textsOf hlist h (List.Perm.refl _)
  refine ⟨_, (loadSpace_eq_loadListedSpace hlist).trans hload, ht.madeOf h,
    fun _ _ _ _ => WeightFile.accepts_stringLines_iff, fun names hnames => ?_,
    fun arrived harrived => ht.spaceOfTexts_eq h (textsOf_mergeSort harrived),
    fun s' t' entries' hlist' hsame => ?_⟩
  · obtain ⟨texts', hload', ht'⟩ := exists_textsOf hlist h hnames
    rw [hload', ht.spaceOfTexts_eq h ht']
  · have h' : OneTextEach space entries' :=
      ⟨fun e he doc hdoc => h.text e ((hsame e.1 e.2 doc hdoc).1 he) doc hdoc,
        fun e he e' he' doc hdoc hdoc' => h.unique e ((hsame e.1 e.2 doc hdoc).1 he) e'
          ((hsame e'.1 e'.2 doc hdoc').1 he') doc hdoc hdoc'⟩
    obtain ⟨texts', hload', ht'⟩ := exists_textsOf hlist' h' (List.Perm.refl _)
    have htexts : ∀ doc text, HasText space entries' doc text ↔ HasText space entries doc text :=
      fun doc text => exists_congr fun name => and_congr_left fun hname => hsame name _ doc hname
    rw [loadSpace_eq_loadListedSpace hlist', hload',
      ht.spaceOfTexts_eq h ⟨ht'.pairwise, fun f => (ht'.mem f).trans (htexts f.1 f.2)⟩]

/-- A tree with weights of three documents, of which one has none and the others differ, and with a
file beside them. -/
def weightsTree : FileTree :=
  ((((FileTree.empty.putDirectory ["out", "weights"]).putFile ["out", "weights", "tfidf_tokens10.txt"]
    "Cat 5 6\ndog 7 8\n".toUTF8).putFile ["out", "weights", "tfidf_tokens2.txt"]
    "cat 1 2\nCAT 3 4\ncat x y\n".toUTF8).putFile ["out", "weights", "tfidf_tokens3.txt"]
    "".toUTF8).putFile ["out", "weights", "notes.txt"] "cat 9 9\n".toUTF8

/-- The frequency of `cat` is that of the document 2, which is listed behind the document 10, and its
weight there is that of the last record; the line behind that is none. -/
theorem loadSpace_of_oneTextEach_cat : ∃ entries sp,
    weightsTree.listDirectory (weightsDir ⟨⟨"out"⟩⟩) = .ok entries ∧ OneTextEach .tokens entries ∧
      entries.map (fun e => weightsDoc? .tokens e.1) = [none, some 10, some 2, some 3] ∧
      loadSpace ⟨⟨"out"⟩⟩ weightsTree .tokens = .ok sp ∧ MadeOf .tokens entries sp ∧
      WeightFile.Accepts (stringLines "cat 1 2\nCAT 3 4\ncat x y\n")
        [⟨"cat", .ofNat 1, .ofNat 2⟩, ⟨"cat", .ofNat 3, .ofNat 4⟩] ∧
      sp.idf["cat"]? = some (Binary64.ofNat 1) ∧
      ∃ v, sp.vectors[(2 : DocId)]? = some v ∧ v["cat"]? = some (Binary64.ofNat 4) := by
  obtain ⟨entries, hlist, hentries⟩ := exists_eq_ok_of_any
    (r := weightsTree.listDirectory (weightsDir ⟨⟨"out"⟩⟩))
    (P := fun entries =>
      decide (entries.map (fun e => weightsDoc? .tokens e.1) = [none, some 10, some 2, some 3]) &&
      decide (∀ e ∈ entries, (weightsDoc? .tokens e.1).isSome → (text? e.2).isSome) &&
      decide (∃ e ∈ entries, weightsDoc? .tokens e.1 = some 2 ∧
        text? e.2 = some "cat 1 2\nCAT 3 4\ncat x y\n"))
    (by decide +kernel)
  simp only [Bool.and_eq_true, decide_eq_true_eq] at hentries
  obtain ⟨⟨hdocs, htexts⟩, ⟨name, n⟩, hmem, hname, htext⟩ := hentries
  have h : OneTextEach .tokens entries := oneTextEach_of_nodup htexts (by rw [hdocs]; decide)
  obtain ⟨sp, hload, hmade, haccepts, -⟩ := loadSpace_of_oneTextEach hlist h
  have htwo : HasText .tokens entries 2 "cat 1 2\nCAT 3 4\ncat x y\n" :=
    ⟨name, text?_eq_some_iff.1 htext ▸ hmem, hname⟩
  have hrecords : WeightFile.ofText "cat 1 2\nCAT 3 4\ncat x y\n" =
      [⟨"cat", .ofNat 1, .ofNat 2⟩, ⟨"cat", .ofNat 3, .ofNat 4⟩] := by decide +kernel
  refine ⟨entries, sp, hlist, h, hdocs, hload, hmade, (haccepts 2 _ htwo _).2 hrecords,
    (hmade.idf "cat" _).2 ⟨2, _, htwo, ?_, ?_⟩, ?_⟩
  · rw [hrecords]
    exact ⟨_, rfl, rfl⟩
  · rintro doc text ⟨name', hmem', hname'⟩ -
    have hdoc : some doc ∈ entries.map fun e => weightsDoc? .tokens e.1 :=
      List.mem_map.2 ⟨_, hmem', hname'⟩
    rw [hdocs] at hdoc
    simp only [List.mem_cons, reduceCtorEq, Option.some.injEq, List.not_mem_nil, or_false,
      false_or] at hdoc
    -- of the documents 10, 2 and 3 none is below 2
    rcases hdoc with rfl | rfl | rfl <;> decide
  · obtain ⟨v, hv, hweight⟩ := hmade.weight 2 _ htwo
    refine ⟨v, hv, ?_⟩
    rw [hweight, hrecords]
    rfl

end Snapshot

end DocSearch
