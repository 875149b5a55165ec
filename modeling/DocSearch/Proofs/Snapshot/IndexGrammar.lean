/-
Loading an index from a stream of bytes. Its lines are records or are passed over, and one piece that
is not UTF-8, wherever it stands, is an error for the whole stream: no store is left of the lines
before it.
-/
import DocSearch.Proofs.Postings.Grammar
import DocSearch.Proofs.Snapshot.Change

namespace DocSearch.Snapshot

open Postings Text

/-- **The grammar of an index.** Of any text the reader accepts the records among its lines, these and
no others, and the store is that of storing them in order: a term has the documents of its last record,
and what has been seen is what any record lists. A record is a line with one colon, a term that is not
empty before it and behind it fields between commas, at least one; a field is a numeral of a document
with blanks around it, which is digits with or without a plus sign, of a value below 2^32. A line that
is no record can be left out and the store is the same. A further record replaces the documents of its
term, leaves those of all other terms, and adds to what has been seen. A stream whose lines are all
UTF-8 is the text that they spell; if one of its lines is not, wherever it stands, loading fails and
there is no store. -/
theorem index_follows_grammar :
    (∀ s : String,
      (∃ rs, Accepts (stringLines s) rs ∧ (∀ rs', Accepts (stringLines s) rs' → rs' = rs) ∧
        ofText s = empty.insertAll rs ∧
        (∀ term docs, (ofText s).find? term = some docs ↔ IsLast (·.1 = term) rs (term, docs)) ∧
        ∀ d, d ∈ (ofText s).seen ↔ ∃ r ∈ rs, d ∈ r.2) ∧
      (∀ before line after s', stringLines s = before ++ line :: after →
        (∀ term docs, ¬ IsRecord line term docs) → stringLines s' = before ++ after →
        ofText s' = ofText s) ∧
      ∀ line term docs s', IsRecord line term docs → stringLines s' = stringLines s ++ [line] →
        (ofText s').find? term = some docs ∧
        (∀ u, u ≠ term → (ofText s').find? u = (ofText s).find? u) ∧
        ∀ d, d ∈ (ofText s').seen ↔ d ∈ (ofText s).seen ∨ d ∈ docs) ∧
    ∀ (snapshot : Snapshot) (t : FileTree) (bytes : ByteArray),
      t.read snapshot.invertedIndex = .ok bytes →
      ((∀ piece ∈ bytes.data.toList.splitOn 10, Encodes piece) →
        ∃ s : String, bytes = s.toUTF8 ∧ snapshot.loadIndex t = .ok (ofText s)) ∧
      ∀ piece ∈ bytes.data.toList.splitOn 10, ¬ Encodes piece →
        snapshot.loadIndex t = .error (.file snapshot.invertedIndex .notUtf8) := by
  refine ⟨fun s => ⟨?_, ?_, ?_⟩, fun snapshot t bytes hread => ⟨?_, ?_⟩⟩
  · have h : Accepts (stringLines s) (records s) := accepts_iff.2 rfl
    have hstore := ofText_eq_of_accepts h
    refine ⟨records s, h, fun rs' h' => (accepts_iff.1 h').symm, hstore, fun term docs => ?_, fun d => ?_⟩
    · rw [hstore, find?_insertAll_empty_iff_isLast]
    · rw [hstore, mem_seen_insertAll_empty]
  · exact fun before line after s' hs hline hs' => ofText_of_skip hline hs hs'
  · intro line term docs s' hline hs'
    rw [ofText_of_record hline hs']
    refine ⟨by rw [find?_insert, if_pos rfl], fun u hu => ?_, fun d => mem_seen_insert _ _ _ _⟩
    rw [find?_insert, if_neg hu.symm]
  · intro h
    obtain ⟨s, rfl⟩ := exists_toUTF8_iff.2 (isValidUTF8_iff_forall_splitOn.2 h)
    refine ⟨s, rfl, ?_⟩
    rw [loadIndex, FileTree.readText_eq_ok_iff.2 hread]
    rfl
  · intro piece hpiece hbad
    have hinvalid : ¬ bytes.IsValidUTF8 := fun h => hbad (isValidUTF8_iff_forall_splitOn.1 h piece hpiece)
    rw [loadIndex, FileTree.readText_eq_error hread hinvalid]
    rfl

/-- A tree with an index of the given bytes. -/
def indexTree (bytes : ByteArray) : FileTree :=
  (FileTree.empty.putDirectory ["out"]).putFile ["out", "inverted_index.txt"] bytes

/-- The line `cat:1,x` leaves no trace. Of a stream whose second line is no text, its first line, which
is a record, is not stored either. -/
theorem index_follows_grammar_cats :
    ofText "cat:1,x\ndog:2\n" = ofText "dog:2\n" ∧
    (ofText "cat:1,x\ndog:2\n").find? "dog" = some (.ofList [2]) ∧
    loadIndex ⟨⟨"out"⟩⟩ (indexTree "cat:+1 , 2\n".toUTF8) = .ok (ofText "cat:+1 , 2\n") ∧
    loadIndex ⟨⟨"out"⟩⟩ (indexTree ⟨#[0x63, 0x3A, 0x31, 10, 0xFF]⟩) =
      .error (.file (invertedIndex ⟨⟨"out"⟩⟩) .notUtf8) := by
  have hbad : ∀ term docs, ¬ IsRecord "cat:1,x".toList term docs :=
    readRecord?_eq_none_iff.1 (by decide)
  have hdog : IsRecord "dog:2".toList "dog" (.ofList [2]) := readRecord?_eq_some_iff_isRecord.1 rfl
  have hvalid := isValidUTF8_iff_forall_splitOn.1 ("cat:+1 , 2\n").isValidUTF8
  have hpiece : ¬ Encodes (ByteArray.mk #[0xFF]).data.toList := encodes_iff.not.2 (by decide)
  obtain ⟨-, hskip, -⟩ := index_follows_grammar.1 "cat:1,x\ndog:2\n"
  obtain ⟨-, -, hstore⟩ := index_follows_grammar.1 "cat:1,x\n"
  obtain ⟨hload, -⟩ := index_follows_grammar.2 ⟨⟨"out"⟩⟩ (indexTree "cat:+1 , 2\n".toUTF8)
    "cat:+1 , 2\n".toUTF8 (by decide +kernel)
  obtain ⟨-, hfail⟩ := index_follows_grammar.2 ⟨⟨"out"⟩⟩ (indexTree ⟨#[0x63, 0x3A, 0x31, 10, 0xFF]⟩)
    ⟨#[0x63, 0x3A, 0x31, 10, 0xFF]⟩ (by decide +kernel)
  refine ⟨?_, ?_, ?_, ?_⟩
  · exact (hskip [] "cat:1,x".toList ["dog:2".toList] "dog:2\n" (by decide) hbad (by decide)).symm
  · exact (hstore "dog:2".toList "dog" (.ofList [2]) "cat:1,x\ndog:2\n" hdog (by decide)).1
  · obtain ⟨s, hs, hok⟩ := hload hvalid
    rwa [← toUTF8_inj hs] at hok
  · exact hfail [0xFF] (by decide) hpiece

end DocSearch.Snapshot
