/-
The lines of a link file. A line is a record if a field stands before its first colon and, behind it,
what stands between the commas is fields or blanks. A graph is known by the records among its lines
and not by their order or number, so lines can change places, be repeated, be left out if they are no
records, and be replaced by several that list the same referrers.
-/
import DocSearch.Authority
import DocSearch.Proofs.LinkGraph.Links
import DocSearch.Proofs.Text.Fields

namespace DocSearch.LinkGraph

open Text

/-! ## Records -/

/-- The referrers of the items of a line: an item is a field, or blanks only and then stands for
none. -/
inductive Items : List (List Char) → List DocId → Prop where
  | nil : Items [] []
  | blank {item : List Char} {items : List (List Char)} {refs : List DocId} (h : AllBlank item)
      (hrest : Items items refs) : Items (item :: items) refs
  | field {item : List Char} {items : List (List Char)} {d : DocId} {refs : List DocId}
      (h : DocId.IsField item d) (hrest : Items items refs) : Items (item :: items) (d :: refs)

/-- Whether a line is a record of a document and referrers: the field of the document, a colon, and
items with commas between them. -/
def IsRecord (line : List Char) (doc : DocId) (refs : List DocId) : Prop :=
  ∃ left items, line = left ++ ':' :: [','].intercalate items ∧ items ≠ [] ∧
    DocId.IsField left doc ∧ Items items refs

variable {line : List Char} {item : List Char} {items : List (List Char)} {doc : DocId}
  {refs : List DocId}

/-- The items that are read: those that hold more than blanks, trimmed. -/
def itemsRead (ids : List Char) : List (List Char) := ((ids.splitOn ',').map trim).filter (!·.isEmpty)

theorem items_iff : Items items refs ↔
    ((items.map trim).filter (!·.isEmpty)).mapM DocId.read? = some refs := by
  induction items generalizing refs with
  | nil =>
    constructor
    · intro h; cases h; rfl
    · intro h; cases h; exact .nil
  | cons item items ih =>
    rw [List.map_cons]
    by_cases hitem : AllBlank item
    · have htrim := trim_eq_nil_iff.2 hitem
      rw [htrim, List.filter_cons_of_neg (by simp), ← ih]
      constructor
      · intro h
        cases h with
        | blank _ hrest => exact hrest
        | field hfield _ =>
          -- a numeral is not empty
          rw [← DocId.read?_trim_eq_some_iff, htrim] at hfield
          cases hfield
      · exact .blank hitem
    · have htrim : trim item ≠ [] := fun h => hitem (trim_eq_nil_iff.1 h)
      rw [List.filter_cons_of_pos (by simpa using htrim), mapM_eq_some_iff,
        List.forall₂_cons_left_iff]
      simp only [← mapM_eq_some_iff, ← ih, DocId.read?_trim_eq_some_iff]
      constructor
      · intro h
        cases h with
        | blank hblank _ => exact absurd hblank hitem
        | field hfield hrest => exact ⟨_, _, hfield, hrest, rfl⟩
      · rintro ⟨d, refs, hfield, hrest, rfl⟩
        exact .field hfield hrest

theorem Items.notMem {c : Char} (hc : isBlank c = false ∧ c.isDigit = false ∧ c ≠ '+')
    (h : Items items refs) : ∀ item ∈ items, c ∉ item := by
  induction h with
  | nil => nofun
  | blank hblank _ ih => exact List.forall_mem_cons.2 ⟨hblank.notMem hc.1, ih⟩
  | field hfield _ ih => exact List.forall_mem_cons.2 ⟨hfield.notMem hc, ih⟩

/-- An item that is neither a field nor blank spoils its whole list. -/
theorem Items.blank_or_field (h : Items items refs) :
    ∀ item ∈ items, AllBlank item ∨ ∃ d, DocId.IsField item d := by
  induction h with
  | nil => nofun
  | blank hblank _ ih => exact List.forall_mem_cons.2 ⟨.inl hblank, ih⟩
  | field hfield _ ih => exact List.forall_mem_cons.2 ⟨.inr ⟨_, hfield⟩, ih⟩

/-- Blanks behind the last item make no difference. -/
theorem itemsRead_append {after : List Char} (ha : AllBlank after) (ids : List Char) :
    itemsRead (ids ++ after) = itemsRead ids := by
  obtain ⟨ls, last, hn, rfl⟩ := exists_ended ',' ids
  have hn' : ∀ l ∈ ls ++ [last ++ after], ',' ∉ l := by
    rw [List.forall_mem_append, List.forall_mem_singleton] at hn ⊢
    exact ⟨hn.1, fun h => (List.mem_append.1 h).elim hn.2 (ha.notMem rfl)⟩
  rw [itemsRead, itemsRead, List.append_assoc, splitOn_ended hn', splitOn_ended hn, List.map_append,
    List.map_append, List.map_singleton, List.map_singleton, trim_append_right ha]

/-- Reading a line does not depend on the blanks around it. -/
theorem readRecord?_eq (line : List Char) : readRecord? line = (do
    let (left, ids) ← splitOnce ':' line
    let doc ← DocId.read? (trim left)
    let refs ← (itemsRead ids).mapM DocId.read?
    some (doc, refs)) := by
  obtain ⟨before, after, hb, ha, hline, -⟩ := exists_trim line
  conv => rhs; rw [hline, splitOnce_append_append (hb.notMem rfl) (ha.notMem rfl)]
  simp only [Option.bind_eq_bind, Option.bind_map, Function.comp_def, trim_append_left hb,
    itemsRead_append ha]
  rfl

theorem isRecord_iff {left : List Char} (hleft : ':' ∉ left) (hitems : ∀ item ∈ items, ',' ∉ item)
    (hne : items ≠ []) : IsRecord (left ++ ':' :: [','].intercalate items) doc refs ↔
      DocId.IsField left doc ∧ Items items refs := by
  constructor
  · rintro ⟨left', items', hline, hne', hfield, h⟩
    have hsplit := (splitOnce_eq_some_iff.2 ⟨rfl, hleft⟩).symm.trans
      (splitOnce_eq_some_iff.2 ⟨hline, hfield.notMem (by decide)⟩)
    simp only [Option.some.injEq, Prod.mk.injEq] at hsplit
    obtain ⟨rfl, hids⟩ := hsplit
    have hpieces := congrArg (List.splitOn ',') hids
    rw [List.splitOn_intercalate ',' hitems hne,
      List.splitOn_intercalate ',' (h.notMem (by decide)) hne'] at hpieces
    exact ⟨hfield, hpieces ▸ h⟩
  · rintro ⟨hfield, h⟩
    exact ⟨left, items, rfl, hne, hfield, h⟩

/-- The lines that are read are the records. -/
theorem readRecord?_eq_some_iff : readRecord? line = some (doc, refs) ↔ IsRecord line doc refs := by
  rw [readRecord?_eq]
  simp only [Option.bind_eq_bind, Option.bind_eq_some_iff, Prod.exists, splitOnce_eq_some_iff,
    Option.some.injEq, Prod.mk.injEq]
  constructor
  · rintro ⟨left, ids, ⟨rfl, hleft⟩, d, hdoc, rs, hrefs, rfl, rfl⟩
    exact ⟨left, ids.splitOn ',', by rw [List.intercalate_splitOn], List.splitOn_ne_nil ',' ids,
      DocId.read?_trim_eq_some_iff.1 hdoc, items_iff.2 hrefs⟩
  · rintro ⟨left, items, rfl, hne, hdoc, hitems⟩
    refine ⟨left, _, ⟨rfl, hdoc.notMem (by decide)⟩, doc, DocId.read?_trim_eq_some_iff.2 hdoc, refs,
      ?_, rfl, rfl⟩
    rw [itemsRead, List.splitOn_intercalate ',' (hitems.notMem (by decide)) hne]
    exact items_iff.1 hitems

/-! ## The graph of the records -/

/-- Whether a line of a text is a record of a document and referrers. -/
def HasRecord (ls : List (List Char)) (doc : DocId) (refs : List DocId) : Prop :=
  ∃ line ∈ ls, IsRecord line doc refs

/-- Whether a document stands on either side of a record. -/
def Mentions (ls : List (List Char)) (d : DocId) : Prop :=
  ∃ doc refs, HasRecord ls doc refs ∧ (d = doc ∨ d ∈ refs)

/-- Whether a record of a document lists a referrer. -/
def Lists (ls : List (List Char)) (d r : DocId) : Prop := ∃ refs, HasRecord ls d refs ∧ r ∈ refs

section Text

variable {s : String} {d r : DocId}

theorem mem_records_iff : (doc, refs) ∈ records s ↔ HasRecord (stringLines s) doc refs := by
  unfold HasRecord
  simp only [records, List.mem_filterMap, readRecord?_eq_some_iff]

theorem mem_nodes_ofText_iff : d ∈ (ofText s).nodes ↔ Mentions (stringLines s) d := by
  unfold Mentions
  simp only [mem_nodes_ofText, Prod.exists, mem_records_iff]

theorem mem_referrersOf_ofText_iff :
    r ∈ (ofText s).referrersOf d ↔ r ≠ d ∧ Lists (stringLines s) d r := by
  simp only [mem_referrersOf_ofText, Prod.exists, mem_records_iff]
  constructor
  · rintro ⟨doc, refs, hrec, rfl, hr, hne⟩; exact ⟨hne, refs, hrec, hr⟩
  · rintro ⟨hne, refs, hrec, hr⟩; exact ⟨d, refs, hrec, rfl, hr, hne⟩

end Text

/-! ## Lines arranged in another way -/

/-- Lines that hold the same links: lines change places, a line is repeated, a line that is no record
is left out, and the list of a record is split over several records of its document. -/
inductive Rearranged : List (List Char) → List (List Char) → Prop where
  | perm {ls ls' : List (List Char)} (h : ls.Perm ls') : Rearranged ls ls'
  | again {ls : List (List Char)} {line : List Char} (h : line ∈ ls) : Rearranged ls (line :: ls)
  | drop {ls : List (List Char)} {line : List Char} (h : ∀ doc refs, ¬ IsRecord line doc refs) :
      Rearranged (line :: ls) ls
  | split {ls parts : List (List Char)} {line : List Char} {doc : DocId} {refs : List DocId}
      {rss : List (List DocId)} (h : IsRecord line doc refs) (hne : rss ≠ [])
      (hparts : List.Forall₂ (IsRecord · doc ·) parts rss) (hrefs : ∀ r, r ∈ refs ↔ r ∈ rss.flatten) :
      Rearranged (line :: ls) (parts ++ ls)
  | symm {ls ls' : List (List Char)} (h : Rearranged ls ls') : Rearranged ls' ls
  | trans {ls ls' ls'' : List (List Char)} (h : Rearranged ls ls') (h' : Rearranged ls' ls'') :
      Rearranged ls ls''

variable {ls ls' : List (List Char)}

theorem hasRecord_cons :
    HasRecord (line :: ls) doc refs ↔ IsRecord line doc refs ∨ HasRecord ls doc refs := by
  simp only [HasRecord, List.mem_cons, exists_eq_or_imp]

theorem hasRecord_append :
    HasRecord (ls ++ ls') doc refs ↔ HasRecord ls doc refs ∨ HasRecord ls' doc refs := by
  simp only [HasRecord, List.mem_append, or_and_right, exists_or]

theorem mentions_append {d : DocId} : Mentions (ls ++ ls') d ↔ Mentions ls d ∨ Mentions ls' d := by
  simp only [Mentions, hasRecord_append, or_and_right, exists_or]

theorem lists_append {d r : DocId} : Lists (ls ++ ls') d r ↔ Lists ls d r ∨ Lists ls' d r := by
  simp only [Lists, hasRecord_append, or_and_right, exists_or]

/-! ### Several records of one document -/

theorem IsRecord.unique {doc' : DocId} {refs' : List DocId} (h : IsRecord line doc refs)
    (h' : IsRecord line doc' refs') : doc' = doc ∧ refs' = refs :=
  Prod.mk.inj (Option.some.inj
    ((readRecord?_eq_some_iff.2 h').symm.trans (readRecord?_eq_some_iff.2 h)))

section Parts

variable {parts : List (List Char)} {rss : List (List DocId)}
  (hparts : List.Forall₂ (IsRecord · doc ·) parts rss)
include hparts

theorem hasRecord_parts {doc' : DocId} {refs' : List DocId} :
    HasRecord parts doc' refs' ↔ doc' = doc ∧ refs' ∈ rss := by
  induction hparts with
  | nil => simp [HasRecord]
  | @cons part rs parts rss hpart _ ih =>
    rw [hasRecord_cons, ih, List.mem_cons, and_or_left]
    refine or_congr_left ⟨hpart.unique, ?_⟩
    rintro ⟨rfl, rfl⟩
    exact hpart

theorem mentions_parts (hne : rss ≠ []) {d : DocId} :
    Mentions parts d ↔ d = doc ∨ d ∈ rss.flatten := by
  obtain ⟨rs, hrs⟩ := List.exists_mem_of_ne_nil rss hne
  unfold Mentions
  simp only [hasRecord_parts hparts, List.mem_flatten]
  constructor
  · rintro ⟨doc', rs', ⟨rfl, hrs'⟩, hd | hd⟩
    · exact .inl hd
    · exact .inr ⟨rs', hrs', hd⟩
  · rintro (hd | ⟨rs', hrs', hd⟩)
    · exact ⟨doc, rs, ⟨rfl, hrs⟩, .inl hd⟩
    · exact ⟨doc, rs', ⟨rfl, hrs'⟩, .inr hd⟩

theorem lists_parts {d r : DocId} : Lists parts d r ↔ d = doc ∧ r ∈ rss.flatten := by
  unfold Lists
  simp only [hasRecord_parts hparts, List.mem_flatten, and_assoc, exists_and_left]

end Parts

/-- Whether two lists of lines mention the same documents and list the same referrers of each. -/
structure Agree (ls ls' : List (List Char)) : Prop where
  mentions : ∀ d, Mentions ls d ↔ Mentions ls' d
  lists : ∀ d r, Lists ls d r ↔ Lists ls' d r

namespace Agree

theorem of_hasRecord (h : ∀ doc refs, HasRecord ls doc refs ↔ HasRecord ls' doc refs) : Agree ls ls' where
  mentions d := by simp only [Mentions, h]
  lists d r := by simp only [Lists, h]

/-- A record and several records of its document agree if together they list what it lists. -/
theorem split {parts : List (List Char)} {rss : List (List DocId)} (h : IsRecord line doc refs)
    (hne : rss ≠ []) (hparts : List.Forall₂ (IsRecord · doc ·) parts rss)
    (hrefs : ∀ r, r ∈ refs ↔ r ∈ rss.flatten) : Agree (line :: ls) (parts ++ ls) := by
  have hline : List.Forall₂ (IsRecord · doc ·) [line] [refs] := .cons h .nil
  constructor
  · intro d
    rw [← List.singleton_append, mentions_append, mentions_append, mentions_parts hline nofun,
      mentions_parts hparts hne, List.flatten_singleton, hrefs]
  · intro d r
    rw [← List.singleton_append, lists_append, lists_append, lists_parts hline, lists_parts hparts,
      List.flatten_singleton, hrefs]

end Agree

theorem Rearranged.agree (h : Rearranged ls ls') : Agree ls ls' := by
  induction h with
  | perm h => exact .of_hasRecord fun _ _ => by simp only [HasRecord, h.mem_iff]
  | again hline =>
    refine .of_hasRecord fun doc refs => ?_
    rw [hasRecord_cons]
    exact (or_iff_right_of_imp fun h => ⟨_, hline, h⟩).symm
  | drop hno => exact .of_hasRecord fun doc refs => hasRecord_cons.trans (or_iff_right (hno doc refs))
  | split h hne hparts hrefs => exact .split h hne hparts hrefs
  | symm _ ih => exact ⟨fun d => (ih.mentions d).symm, fun d r => (ih.lists d r).symm⟩
  | trans _ _ ih ih' =>
    exact ⟨fun d => (ih.mentions d).trans (ih'.mentions d),
      fun d r => (ih.lists d r).trans (ih'.lists d r)⟩

theorem ofText_eq_of_rearranged {s s' : String} (h : Rearranged (stringLines s) (stringLines s')) :
    ofText s = ofText s' := by
  refine LinkGraph.ext (fun d => ?_) fun d r => ?_
  · rw [mem_nodes_ofText_iff, mem_nodes_ofText_iff, h.agree.mentions]
  · rw [mem_referrersOf_ofText_iff, mem_referrersOf_ofText_iff, h.agree.lists]

/-- **Lines of a link file.** The documents of the graph of a text are those on either side of a
record, and the referrers of a document are the others that a record of it lists. A line with a field
before its first colon is a record only if each item behind it is a field or blank: one item that is
not, be it no number or too large, spoils the whole line, wherever it stands. However the lines of a
text are arranged, with lines repeated, lists split over several records of their document and lines
that are no records left out or put in, the graph is the same, and with it the numbers of referrers and
the PageRank. -/
theorem graph_of_lines :
    (∀ s : String,
      (∀ d, d ∈ (ofText s).nodes ↔
        ∃ doc refs, HasRecord (stringLines s) doc refs ∧ (d = doc ∨ d ∈ refs)) ∧
      ∀ d r, r ∈ (ofText s).referrersOf d ↔
        r ≠ d ∧ ∃ refs, HasRecord (stringLines s) d refs ∧ r ∈ refs) ∧
    (∀ left items, ':' ∉ left → items ≠ [] → (∀ item ∈ items, ',' ∉ item) →
      ((∀ d, ¬ DocId.IsField left d) ∨
        ∃ item ∈ items, ¬ AllBlank item ∧ ∀ d, ¬ DocId.IsField item d) →
      ∀ doc refs, ¬ IsRecord (left ++ ':' :: [','].intercalate items) doc refs) ∧
    ∀ s s' : String, Rearranged (stringLines s) (stringLines s') →
      ofText s = ofText s' ∧
      ∀ (α : Type) [Scalar α],
        (Authority.linkCounts (ofText s) : Authority α) = Authority.linkCounts (ofText s') ∧
        ∀ config : PageRankConfig α,
          Authority.pageRank (ofText s) config = Authority.pageRank (ofText s') config := by
  refine ⟨fun s => ⟨fun d => mem_nodes_ofText_iff, fun d r => mem_referrersOf_ofText_iff⟩, ?_, ?_⟩
  · intro left items hleft hne hitems hbad doc refs h
    obtain ⟨hfield, hrest⟩ := (isRecord_iff hleft hitems hne).1 h
    rcases hbad with hbad | ⟨item, hitem, hblank, hbad⟩
    · exact hbad doc hfield
    · rcases hrest.blank_or_field item hitem with hblank' | ⟨d, hd⟩
      · exact hblank hblank'
      · exact hbad d hd
  · intro s s' h
    rw [ofText_eq_of_rearranged h]
    exact ⟨rfl, fun α _ => ⟨rfl, fun _ => rfl⟩⟩

/-- Lines in another order, with a list split, a line repeated, and a line that a bad item spoils. -/
theorem graph_of_lines_split :
    Rearranged (stringLines "1:2, 3\n3:1\n") (stringLines "3:1\n3:1\n1:3\n1:2,\n2:3,x\n") ∧
    ofText "1:2, 3\n3:1\n" = ofText "3:1\n3:1\n1:3\n1:2,\n2:3,x\n" := by
  have hboth : IsRecord "1:2, 3".toList 1 [2, 3] := readRecord?_eq_some_iff.1 (by decide)
  have hparts : List.Forall₂ (IsRecord · 1 ·) ["1:3".toList, "1:2,".toList] [[3], [2]] :=
    .cons (readRecord?_eq_some_iff.1 (by decide)) (.cons (readRecord?_eq_some_iff.1 (by decide)) .nil)
  have hitem : ∀ d, ¬ DocId.IsField ['x'] d := fun d h => by
    cases (show DocId.read? (trim ['x']) = none by decide).symm.trans (DocId.read?_trim_eq_some_iff.2 h)
  have hbad : ∀ doc refs, ¬ IsRecord "2:3,x".toList doc refs :=
    graph_of_lines.2.1 ['2'] [['3'], ['x']] (by decide) (by decide) (by decide)
      (.inr ⟨['x'], by decide, fun h => absurd (h 'x' (by decide)) (by decide), hitem⟩)
  have hagain : "3:1".toList ∈ ["1:3".toList, "1:2,".toList, "3:1".toList] := by decide
  have h : Rearranged (stringLines "1:2, 3\n3:1\n") (stringLines "3:1\n3:1\n1:3\n1:2,\n2:3,x\n") := by
    rw [show stringLines "1:2, 3\n3:1\n" = ["1:2, 3".toList, "3:1".toList] by decide]
    refine .trans (.split hboth (by decide) hparts fun r => ?_) ?_
    · simp [or_comm]
    · exact .trans (.again hagain) (.trans (.symm (.drop hbad)) (.perm (by decide)))
  exact ⟨h, (graph_of_lines.2.2 _ _ h).1⟩

end DocSearch.LinkGraph
