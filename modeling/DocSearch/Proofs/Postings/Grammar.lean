/-
The grammar of index records. A line is a record if it holds one colon, a term before it, and behind
it fields that commas part. A text is read line by line: a record is stored and any other line is
passed over, so a line that is no record could as well not be there, however much of it looks like
one. What is stored for a term is its last record; what has been seen is what any record lists.
-/
import DocSearch.Proofs.Postings.Records
import DocSearch.Proofs.Text.Fields

namespace DocSearch.Postings

open Text

/-! ## Records -/

/-- Whether a line is the record of a term and its documents: the term, the only colon, and fields
with commas between them. -/
def IsRecord (line : List Char) (term : String) (docs : DocSet) : Prop :=
  ∃ items ds, line = term.toList ++ ':' :: [','].intercalate items ∧ line.count ':' = 1 ∧
    term ≠ "" ∧ items ≠ [] ∧ List.Forall₂ DocId.IsField items ds ∧ docs = DocSet.ofList ds

/-- The records that a reader of lines accepts. -/
def Accepts (ls : List (List Char)) (rs : List (String × DocSet)) : Prop :=
  AcceptsLines (fun line r => IsRecord line r.1 r.2) ls rs

variable {line : List Char} {term : String} {docs : DocSet} {ls : List (List Char)}
  {rs : List (String × DocSet)}

/-! ## Lines -/

/-- Fields with commas between them are what a list is split into and read from. -/
theorem exists_items_iff {ids : List Char} {ds : List DocId} :
    (ids.splitOn ',').mapM (fun id => DocId.read? (trim id)) = some ds ↔
      ∃ items, ids = [','].intercalate items ∧ items ≠ [] ∧ List.Forall₂ DocId.IsField items ds := by
  simp only [mapM_eq_some_iff, DocId.read?_trim_eq_some_iff]
  constructor
  · exact fun h => ⟨ids.splitOn ',', (List.intercalate_splitOn ',').symm, List.splitOn_ne_nil ',' ids, h⟩
  · rintro ⟨items, rfl, hne, h⟩
    have hcomma : ∀ item ∈ items, ',' ∉ item := fun item hitem => by
      obtain ⟨d, -, hd⟩ := exists_of_mem_forall₂ h hitem
      exact hd.notMem (by decide)
    rwa [List.splitOn_intercalate ',' hcomma hne]

/-- The lines that are read are the records. -/
theorem readRecord?_eq_some_iff_isRecord :
    readRecord? line = some (term, docs) ↔ IsRecord line term docs := by
  rw [readRecord?_eq_some_iff]
  simp only [exists_items_iff]
  constructor
  · rintro ⟨ids, ds, rfl, hne, hterm, hids, ⟨items, rfl, hitems, hds⟩, hdocs⟩
    refine ⟨items, ds, rfl, ?_, hne, hitems, hds, hdocs⟩
    rw [List.count_append, List.count_cons_self, List.count_eq_zero.2 hterm,
      List.count_eq_zero.2 hids]
  · rintro ⟨items, ds, rfl, hcount, hne, hitems, hds, hdocs⟩
    rw [List.count_append, List.count_cons_self] at hcount
    have hterm : ':' ∉ term.toList := List.count_eq_zero.1 (by omega)
    have hids : ':' ∉ [','].intercalate items := List.count_eq_zero.1 (by omega)
    exact ⟨_, ds, rfl, hne, hterm, hids, ⟨items, rfl, hitems, hds⟩, hdocs⟩

theorem readRecord?_eq_none_iff :
    readRecord? line = none ↔ ∀ term docs, ¬ IsRecord line term docs := by
  rw [Option.eq_none_iff_forall_ne_some, Prod.forall]
  exact forall₂_congr fun term docs => not_congr readRecord?_eq_some_iff_isRecord

theorem accepts_iff : Accepts ls rs ↔ ls.filterMap readRecord? = rs :=
  acceptsLines_iff fun _ _ => readRecord?_eq_some_iff_isRecord

/-! ## The store of a text -/

/-- What is stored for a term is its last record. -/
theorem find?_insertAll_empty_iff_isLast :
    (empty.insertAll rs).find? term = some docs ↔ IsLast (·.1 = term) rs (term, docs) := by
  rw [find?, lists_insertAll, empty, getElem?_foldl_insert_empty_eq_some_iff Prod.fst Prod.snd]
  constructor
  · rintro ⟨⟨u, ds⟩, hlast, rfl⟩
    obtain ⟨-, -, -, rfl, -⟩ := id hlast
    exact hlast
  · exact fun h => ⟨_, h, rfl⟩

theorem ofText_eq_of_accepts {s : String} (h : Accepts (stringLines s) rs) :
    ofText s = empty.insertAll rs := by
  rw [ofText_eq_insertAll, records, accepts_iff.1 h]

/-- Without a line that is no record, the store is the same. -/
theorem ofText_of_skip {s s' : String} {before after : List (List Char)}
    (h : ∀ term docs, ¬ IsRecord line term docs) (hs : stringLines s = before ++ line :: after)
    (hs' : stringLines s' = before ++ after) : ofText s' = ofText s := by
  rw [ofText_eq_insertAll, ofText_eq_insertAll, records, records, hs, hs', List.filterMap_append,
    List.filterMap_append, List.filterMap_cons_none (readRecord?_eq_none_iff.2 h)]

/-- A further record is stored on top of the others. -/
theorem ofText_of_record {s s' : String} (h : IsRecord line term docs)
    (hs' : stringLines s' = stringLines s ++ [line]) : ofText s' = (ofText s).insert term docs := by
  rw [ofText, hs', List.foldl_concat, ← ofText, insertLine, readRecord?_eq_some_iff_isRecord.2 h]

end DocSearch.Postings
