/-
Writing a store and reading it back. A store whose terms hold no newline is read back with those of
its terms that have a line of their own: the term is not empty, holds no colon and lists a document.
Every term of a text that was read is of this kind, so a text that has been read and written once
is in a form that reading and writing do not change; only documents that no term lists any more are
forgotten.
-/
import DocSearch.Proofs.Postings.Records

namespace DocSearch.Postings

open Text

/-! ## Reading back any store -/

theorem mem_recordText {term : String} {docs : DocSet} {c : Char} (hd : c.isDigit = false)
    (hc : c ≠ ',' ∧ c ≠ ':') : c ∈ (recordText term docs).toList ↔ c ∈ term.toList := by
  rw [toList_recordText, List.mem_append, List.mem_cons]
  constructor
  · rintro (h | h | h)
    · exact h
    · exact absurd h hc.2
    · exact absurd (DocSet.mem_text hd h) hc.1
  · exact .inl

/-- The line of a term ends in a digit or, without documents, in the colon. -/
theorem getLast?_recordText (term : String) (docs : DocSet) :
    (recordText term docs).toList.getLast? ≠ some '\r' := by
  rw [toList_recordText, List.getLast?_append]
  cases hlast : (':' :: (docs.text ",").toList).getLast? with
  | none => cases List.getLast?_eq_none_iff.1 hlast
  | some c =>
    rintro ⟨⟩
    rcases List.mem_cons.1 (List.mem_of_getLast? hlast) with h | h
    · cases h
    · cases DocSet.mem_text rfl h

theorem records_text {p : Postings} (h : ∀ r ∈ p.toList, '\n' ∉ r.1.toList) :
    records p.text = p.toList.filter (ReadsBack ·) := by
  have hn : ∀ l ∈ p.toList.map fun r => recordText r.1 r.2, '\n' ∉ l.toList := by
    intro l hl
    obtain ⟨r, hr, rfl⟩ := List.mem_map.1 hl
    rw [mem_recordText rfl (by decide)]
    exact h r hr
  have hr : ∀ l ∈ p.toList.map fun r => recordText r.1 r.2, l.toList.getLast? ≠ some '\r' := by
    intro l hl
    obtain ⟨r, -, rfl⟩ := List.mem_map.1 hl
    exact getLast?_recordText r.1 r.2
  unfold records text
  rw [stringLines_unlines hn hr, List.map_map, List.filterMap_map, ← List.filterMap_eq_filter]
  refine congrArg (p.toList.filterMap ·) (funext fun r => ?_)
  simp [readRecord?_recordText, Option.guard]

theorem find?_ofText_text {p : Postings} (h : ∀ r ∈ p.toList, '\n' ∉ r.1.toList) {w : String}
    {ds : DocSet} : (ofText p.text).find? w = some ds ↔ p.find? w = some ds ∧ ReadsBack (w, ds) := by
  have hn : ((p.toList.filter (ReadsBack ·)).map (·.1)).Nodup :=
    ((List.filter_sublist).map _).nodup (nodup_terms p)
  rw [ofText_eq_insertAll, records_text h, find?_insertAll_empty_iff hn, List.mem_filter, mem_toList,
    decide_eq_true_iff]

theorem mem_seen_ofText_text {p : Postings} (h : ∀ r ∈ p.toList, '\n' ∉ r.1.toList) {d : DocId} :
    d ∈ (ofText p.text).seen ↔ ∃ w ds, p.find? w = some ds ∧ ReadsBack (w, ds) ∧ d ∈ ds := by
  rw [ofText_eq_insertAll, mem_seen_insertAll_empty, records_text h]
  simp only [List.mem_filter, decide_eq_true_iff, Prod.exists, mem_toList, and_assoc]

/-- A store that was read back has seen what its terms list and nothing else. -/
theorem mem_seen_ofText_text_iff_lists {p : Postings} (h : ∀ r ∈ p.toList, '\n' ∉ r.1.toList)
    {d : DocId} : d ∈ (ofText p.text).seen ↔ (ofText p.text).Lists d := by
  rw [mem_seen_ofText_text h]
  unfold Lists
  simp only [find?_ofText_text h, and_assoc]

theorem mem_docs {p : Postings} {w : String} {d : DocId} :
    d ∈ p.docs w ↔ ∃ ds, p.find? w = some ds ∧ d ∈ ds := by
  unfold docs
  cases p.find? w with
  | none => simp
  | some ds => simp

/-- Stores whose terms can all stand in a line. -/
def Writes (p : Postings) : Prop := ∀ w ds, p.find? w = some ds → Writable w

namespace Writes

variable {p : Postings}

theorem newline (h : p.Writes) : ∀ r ∈ p.toList, '\n' ∉ r.1.toList :=
  fun _ hr => (h _ _ (mem_toList.1 hr)).newline

theorem readsBack (h : p.Writes) {w : String} {ds : DocSet} (hf : p.find? w = some ds) :
    ReadsBack (w, ds) ↔ ds ≠ ∅ :=
  ⟨fun hr => hr.2.2, fun hds => ⟨(h w ds hf).ne_empty, (h w ds hf).colon, hds⟩⟩

/-- A term without documents is lost, which no look-up shows. -/
theorem docs_reload (h : p.Writes) (w : String) : (ofText p.text).docs w = p.docs w := by
  apply Std.ExtTreeSet.ext_mem
  intro d
  simp only [mem_docs, find?_ofText_text h.newline]
  constructor
  · rintro ⟨ds, ⟨hf, -⟩, hd⟩; exact ⟨ds, hf, hd⟩
  · rintro ⟨ds, hf, hd⟩
    exact ⟨ds, ⟨hf, (h.readsBack hf).2 (Std.ExtTreeSet.ne_empty_of_mem hd)⟩, hd⟩

theorem mem_seen_reload (h : p.Writes) (d : DocId) : d ∈ (ofText p.text).seen ↔ p.Lists d := by
  rw [mem_seen_ofText_text h.newline]
  constructor
  · rintro ⟨w, ds, hf, -, hd⟩; exact ⟨w, ds, hf, hd⟩
  · rintro ⟨w, ds, hf, hd⟩
    exact ⟨w, ds, hf, (h.readsBack hf).2 (Std.ExtTreeSet.ne_empty_of_mem hd), hd⟩

/-- Without empty lists no term is lost. -/
theorem find?_reload (h : p.Writes) (hne : ∀ w, p.find? w ≠ some ∅) (w : String) :
    (ofText p.text).find? w = p.find? w := by
  ext ds
  rw [find?_ofText_text h.newline]
  exact and_iff_left_of_imp fun hf => (h.readsBack hf).2 fun he => hne w (he ▸ hf)

end Writes

/-! ## Reading back what was read -/

theorem mem_records_of_find?_ofText {s w : String} {ds : DocSet} (h : (ofText s).find? w = some ds) :
    (w, ds) ∈ records s := by
  rw [ofText_eq_insertAll] at h
  exact mem_of_find?_insertAll_empty h

theorem writes_ofText (s : String) : (ofText s).Writes := fun _ _ h =>
  (writable_of_mem_records (mem_records_of_find?_ofText h)).1

theorem find?_ofText_ne_empty (s w : String) : (ofText s).find? w ≠ some ∅ := fun h =>
  (writable_of_mem_records (mem_records_of_find?_ofText h)).2 rfl

theorem text_congr {p q : Postings} (h : ∀ w, p.find? w = q.find? w) : p.text = q.text := by
  have hl : p.lists = q.lists := Std.ExtTreeMap.ext_getElem? fun {w} => h w
  unfold text toList
  rw [hl]

theorem seen_of_lists_ofText {s : String} {d : DocId} (h : (ofText s).Lists d) : d ∈ (ofText s).seen := by
  rw [ofText_eq_insertAll] at h ⊢
  exact seen_of_lists_insertAll_empty h

/-- Written once, a store that was read is in normal form. Reading it back gives the same terms with
the same documents; the documents seen are then those that some term lists, all of them seen before;
and it is written as the same text again. -/
theorem ofText_text_ofText (s : String) :
    (∀ w, (ofText (ofText s).text).find? w = (ofText s).find? w) ∧
    (∀ d, d ∈ (ofText (ofText s).text).seen ↔ (ofText s).Lists d) ∧
    (∀ d, d ∈ (ofText (ofText s).text).seen → d ∈ (ofText s).seen) ∧
    (ofText (ofText s).text).text = (ofText s).text := by
  have hw := writes_ofText s
  have hfind := hw.find?_reload (find?_ofText_ne_empty s)
  refine ⟨hfind, hw.mem_seen_reload, fun d hd => ?_, text_congr hfind⟩
  exact seen_of_lists_ofText ((hw.mem_seen_reload d).1 hd)

end DocSearch.Postings
