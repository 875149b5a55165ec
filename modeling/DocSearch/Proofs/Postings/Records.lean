/-
Records of an inverted index: what a store holds after records have been put into it, which lines
are records, and which terms have a line that is read back. A text describes the store of its
records, so facts about storing are facts about reading.
-/
import Mathlib.Data.List.Nodup
import DocSearch.Postings.Record
import DocSearch.Proofs.DocSet
import DocSearch.Proofs.Inserts
import DocSearch.Proofs.Text.Lines

namespace DocSearch.Postings

open Text

/-! ## Storing records -/

/-- Stores records one after the other. -/
def insertAll (p : Postings) (rs : List (String × DocSet)) : Postings :=
  rs.foldl (fun p r => p.insert r.1 r.2) p

/-- Whether some term of the store lists a document. -/
def Lists (p : Postings) (d : DocId) : Prop := ∃ w ds, p.find? w = some ds ∧ d ∈ ds

theorem ext_find? {p q : Postings} (hl : ∀ w, p.find? w = q.find? w)
    (hs : ∀ d, d ∈ p.seen ↔ d ∈ q.seen) : p = q := by
  obtain ⟨pl, ps⟩ := p
  obtain ⟨ql, qs⟩ := q
  have hlists : pl = ql := Std.ExtTreeMap.ext_getElem? fun {w} => hl w
  have hseen : ps = qs := Std.ExtTreeSet.ext_mem fun d => hs d
  rw [hlists, hseen]

theorem mem_toList {p : Postings} {w : String} {ds : DocSet} :
    (w, ds) ∈ p.toList ↔ p.find? w = some ds :=
  Std.ExtTreeMap.mem_toList_iff_getElem?_eq_some

theorem nodup_terms (p : Postings) : (p.toList.map (·.1)).Nodup := by
  rw [toList, Std.ExtTreeMap.map_fst_toList_eq_keys]
  exact Std.ExtTreeMap.nodup_keys

theorem mem_seen_insertAll {d : DocId} (rs : List (String × DocSet)) (p : Postings) :
    d ∈ (p.insertAll rs).seen ↔ (∃ r ∈ rs, d ∈ r.2) ∨ d ∈ p.seen :=
  foldl_iff_exists (d ∈ seen ·) (fun r : String × DocSet => d ∈ r.2)
    (fun p r => (mem_seen_insert p r.1 r.2 d).trans or_comm) rs p

theorem lists_insertAll : ∀ (rs : List (String × DocSet)) (p : Postings),
    (p.insertAll rs).lists = rs.foldl (fun m r => m.insert r.1 r.2) p.lists
  | [], _ => rfl
  | r :: rs, p => lists_insertAll rs (p.insert r.1 r.2)

/-! ## Storing records from the start -/

section Empty

variable {rs : List (String × DocSet)} {w : String} {ds : DocSet} {d : DocId}

/-- What a term lists is from one of the records. -/
theorem mem_of_find?_insertAll_empty (h : (empty.insertAll rs).find? w = some ds) : (w, ds) ∈ rs := by
  rw [find?, lists_insertAll] at h
  rcases mem_of_getElem?_foldl_insert Prod.fst Prod.snd h with ⟨r, hr, rfl, rfl⟩ | h
  · exact hr
  · rw [empty, Std.ExtTreeMap.getElem?_empty] at h; cases h

/-- Where no term is repeated, every record is kept. -/
theorem find?_insertAll_empty_iff (hn : (rs.map (·.1)).Nodup) :
    (empty.insertAll rs).find? w = some ds ↔ (w, ds) ∈ rs := by
  refine ⟨mem_of_find?_insertAll_empty, fun h => ?_⟩
  rw [find?, lists_insertAll]
  exact getElem?_foldl_insert_of_mem Prod.fst Prod.snd h fun r hr hw =>
    congrArg Prod.snd (List.inj_on_of_nodup_map hn hr h hw)

theorem mem_seen_insertAll_empty : d ∈ (empty.insertAll rs).seen ↔ ∃ r ∈ rs, d ∈ r.2 := by
  rw [mem_seen_insertAll]
  exact or_iff_left Std.ExtTreeSet.not_mem_empty

/-- What is listed has been seen. -/
theorem seen_of_lists_insertAll_empty (h : (empty.insertAll rs).Lists d) :
    d ∈ (empty.insertAll rs).seen := by
  obtain ⟨w, ds, hf, hd⟩ := h
  exact mem_seen_insertAll_empty.2 ⟨_, mem_of_find?_insertAll_empty hf, hd⟩

end Empty

/-! ## The records of a text -/

/-- The records of a text, in order. -/
def records (s : String) : List (String × DocSet) := (stringLines s).filterMap readRecord?

theorem foldl_insertLine : ∀ (ls : List (List Char)) (p : Postings),
    ls.foldl insertLine p = p.insertAll (ls.filterMap readRecord?)
  | [], _ => rfl
  | l :: ls, p => by
    rw [List.foldl_cons, foldl_insertLine ls, List.filterMap_cons]
    unfold insertLine
    cases readRecord? l with
    | none => rfl
    | some r => rfl

theorem ofText_eq_insertAll (s : String) : ofText s = empty.insertAll (records s) :=
  foldl_insertLine _ _

/-- A line is a record if it is a term, a colon and a list of identifiers, with no other colon. -/
theorem readRecord?_eq_some_iff {line : List Char} {term : String} {docs : DocSet} :
    readRecord? line = some (term, docs) ↔ ∃ ids ds,
      line = term.toList ++ ':' :: ids ∧ term ≠ "" ∧ ':' ∉ term.toList ∧ ':' ∉ ids ∧
        (ids.splitOn ',').mapM (fun id => DocId.read? (trim id)) = some ds ∧
        docs = DocSet.ofList ds := by
  unfold readRecord?
  simp only [Option.bind_eq_bind, Option.bind_eq_some_iff]
  constructor
  · rintro ⟨⟨t, ids⟩, hsplit, h⟩
    obtain ⟨rfl, ht⟩ := splitOnce_eq_some_iff.1 hsplit
    split at h
    · cases h
    · rename_i hno
      obtain ⟨hne, hids⟩ := not_or.1 hno
      obtain ⟨ds, hds, h⟩ := Option.bind_eq_some_iff.1 h
      cases h
      refine ⟨ids, ds, by rw [String.toList_ofList], ?_, by rwa [String.toList_ofList], hids, hds, rfl⟩
      rw [Ne, ← String.toList_inj, String.toList_ofList]
      simpa using hne
  · rintro ⟨ids, ds, rfl, hne, ht, hids, hds, rfl⟩
    refine ⟨(term.toList, ids), splitOnce_eq_some_iff.2 ⟨rfl, ht⟩, ?_⟩
    have hempty : ¬ (term.toList.isEmpty = true ∨ ':' ∈ ids) := by
      rintro (h | h)
      · exact hne (String.toList_inj.1 (by simpa using h))
      · exact hids h
    rw [if_neg hempty, hds]
    simp

/-- The terms that can stand in a line. -/
structure Writable (term : String) : Prop where
  ne_empty : term ≠ ""
  colon : ':' ∉ term.toList
  newline : '\n' ∉ term.toList

/-- A record of a line has a term that can stand in a line, and a document. -/
theorem writable_of_readRecord? {line : List Char} {term : String} {docs : DocSet}
    (h : readRecord? line = some (term, docs)) (hn : '\n' ∉ line) : Writable term ∧ docs ≠ ∅ := by
  obtain ⟨ids, ds, rfl, hne, hcolon, -, hds, rfl⟩ := readRecord?_eq_some_iff.1 h
  refine ⟨⟨hne, hcolon, fun h => hn (List.mem_append_left _ h)⟩, fun hempty => ?_⟩
  -- a list that is split has a first piece, so at least one identifier has been read
  obtain ⟨piece, pieces, hp⟩ := List.exists_cons_of_ne_nil (List.splitOn_ne_nil ',' ids)
  rw [hp, List.mapM_cons] at hds
  obtain ⟨d, -, hds⟩ := Option.bind_eq_some_iff.1 hds
  obtain ⟨ds', -, hds⟩ := Option.bind_eq_some_iff.1 hds
  cases hds
  exact Std.ExtTreeSet.not_mem_empty (hempty ▸ Std.ExtTreeSet.mem_ofList.2 (by simp) : d ∈ (∅ : DocSet))

theorem writable_of_mem_records {s : String} {r : String × DocSet} (h : r ∈ records s) :
    Writable r.1 ∧ r.2 ≠ ∅ := by
  obtain ⟨line, hline, h⟩ := List.mem_filterMap.1 h
  exact writable_of_readRecord? h (notMem_newline_of_mem_lines hline)

/-! ## The line of a term -/

theorem toList_recordText (term : String) (docs : DocSet) :
    (recordText term docs).toList = term.toList ++ ':' :: (docs.text ",").toList := by
  simp [recordText]

/-- The identifiers of a set that is not empty are read back from its text. -/
theorem mapM_read?_text {docs : DocSet} (h : docs ≠ ∅) :
    ((docs.text ",").toList.splitOn ',').mapM (fun id => DocId.read? (trim id)) =
      some docs.toList := by
  rw [DocSet.splitOn_text h]
  generalize docs.toList = ds
  induction ds with
  | nil => rfl
  | cons d ds ih =>
    rw [List.map_cons, List.mapM_cons, DocId.read?_trim_text, ih]
    rfl

/-- Whether the line of a term is read back. -/
def ReadsBack (r : String × DocSet) : Prop := r.1 ≠ "" ∧ ':' ∉ r.1.toList ∧ r.2 ≠ ∅

instance : DecidablePred ReadsBack := fun r =>
  inferInstanceAs (Decidable (r.1 ≠ "" ∧ ':' ∉ r.1.toList ∧ ¬ r.2 = ∅))

/-- The line of a term is read back as it was, or not at all. -/
theorem readRecord?_recordText (term : String) (docs : DocSet) :
    readRecord? (recordText term docs).toList =
      if ReadsBack (term, docs) then some (term, docs) else none := by
  split
  · rename_i h
    obtain ⟨hne, hcolon, hdocs⟩ := h
    refine readRecord?_eq_some_iff.2 ⟨_, docs.toList, toList_recordText term docs, hne, hcolon, ?_,
      mapM_read?_text hdocs, (DocSet.ofList_toList docs).symm⟩
    intro h
    cases DocSet.mem_text rfl h
  · rename_i hno
    rw [Option.eq_none_iff_forall_ne_some]
    rintro ⟨t, ds⟩ h
    obtain ⟨ids, is, hline, hne, ht, hids, his, rfl⟩ := readRecord?_eq_some_iff.1 h
    rw [toList_recordText] at hline
    -- the line has one colon, so the term has none and both splits are the same
    have hcolon : ':' ∉ term.toList := by
      have hcount := congrArg (List.count ':') hline
      simp only [List.count_append, List.count_cons_self, List.count_eq_zero.2 ht,
        List.count_eq_zero.2 hids] at hcount
      rw [← List.count_eq_zero]
      omega
    have hsplit := (splitOnce_eq_some_iff.2 ⟨rfl, hcolon⟩).symm.trans
      (splitOnce_eq_some_iff.2 ⟨hline, ht⟩)
    simp only [Option.some.injEq, Prod.mk.injEq] at hsplit
    obtain ⟨hterm, rfl⟩ := hsplit
    refine hno ⟨String.toList_inj.1 hterm ▸ hne, hcolon, ?_⟩
    rintro rfl
    cases his

end DocSearch.Postings
