/-
Texts and their lines. A text put together from lines has those lines again, unless one of them
holds a newline or ends in a carriage return; no line of any text holds a newline. A reader of
records takes the lines that are records, in order, and passes over all others.
-/
import DocSearch.Text.Lines

namespace DocSearch.Text

/-! ## Lines of a text -/

theorem toList_unlines (ls : List String) :
    (unlines ls).toList = ls.flatMap fun l => l.toList ++ ['\n'] := by
  unfold unlines
  rw [String.toList_join, List.flatMap_map]
  simp only [String.toList_append]
  rfl

theorem intercalate_concat {α : Type} (a : α) (last : List α) : ∀ ls : List (List α),
    [a].intercalate (ls ++ [last]) = ls.flatMap (· ++ [a]) ++ last
  | [] => List.intercalate_singleton
  | l :: ls => by
    rw [List.cons_append, List.intercalate_cons_of_ne_nil (by simp),
      intercalate_concat a last ls, List.flatMap_cons, List.append_assoc (l ++ [a])]

/-- Pieces that a separator ends each, with a last piece that it does not end, are what it splits
their text into. -/
theorem splitOn_ended {α : Type} [BEq α] [LawfulBEq α] {a : α} {ls : List (List α)} {last : List α}
    (h : ∀ l ∈ ls ++ [last], a ∉ l) : (ls.flatMap (· ++ [a]) ++ last).splitOn a = ls ++ [last] := by
  rw [← intercalate_concat]
  exact List.splitOn_intercalate a h (by simp)

/-- Behind the last newline there is one more piece, which is empty. -/
theorem splitOn_unlines {ls : List String} (h : ∀ l ∈ ls, '\n' ∉ l.toList) :
    (unlines ls).toList.splitOn '\n' = ls.map String.toList ++ [[]] := by
  have hn : ∀ l ∈ ls.map String.toList ++ [[]], '\n' ∉ l := by
    simpa only [List.forall_mem_append, List.forall_mem_map, List.forall_mem_singleton] using
      ⟨h, List.not_mem_nil⟩
  have hsplit := splitOn_ended hn
  rwa [List.append_nil, List.flatMap_map, ← toList_unlines] at hsplit

theorem chomp_of_getLast? {cs : List Char} (h : cs.getLast? ≠ some '\r') : chomp cs = cs := if_neg h

theorem stringLines_unlines {ls : List String} (hn : ∀ l ∈ ls, '\n' ∉ l.toList)
    (hr : ∀ l ∈ ls, l.toList.getLast? ≠ some '\r') :
    stringLines (unlines ls) = ls.map String.toList := by
  unfold stringLines lines
  rw [splitOn_unlines hn]
  simp only [List.dropLast_concat, List.getLast?_concat, List.append_nil, List.map_map]
  exact List.map_congr_left fun l hl => chomp_of_getLast? (hr l hl)

/-- No piece of a split holds what was split at. -/
theorem eq_false_of_mem_splitOnP {α : Type} {f : α → Bool} : ∀ {cs p : List α}, p ∈ cs.splitOnP f →
    ∀ c ∈ p, f c = false
  | [], p, h => by
    rw [List.splitOnP_nil, List.mem_singleton] at h
    simp [h]
  | c :: cs, p, h => by
    rw [List.splitOnP_cons_eq_if_modifyHead] at h
    split at h
    · rcases List.mem_cons.1 h with rfl | h
      · simp
      · exact eq_false_of_mem_splitOnP h
    · rename_i hc
      obtain ⟨q, qs, hq⟩ := List.exists_cons_of_ne_nil (List.splitOnP_ne_nil f cs)
      have ih : ∀ p ∈ q :: qs, ∀ c ∈ p, f c = false := fun p hp =>
        eq_false_of_mem_splitOnP (hq ▸ hp : p ∈ cs.splitOnP f)
      rw [hq, List.modifyHead_cons] at h
      rcases List.mem_cons.1 h with rfl | h
      · exact List.forall_mem_cons.2 ⟨by simpa using hc, ih q List.mem_cons_self⟩
      · exact ih p (List.mem_cons_of_mem _ h)

theorem notMem_of_mem_splitOn {α : Type} [BEq α] [LawfulBEq α] {a : α} {cs p : List α}
    (h : p ∈ cs.splitOn a) : a ∉ p := by
  rw [List.splitOn_eq_splitOnP] at h
  exact fun ha => by simpa using eq_false_of_mem_splitOnP h a ha

/-- Every text is one of pieces that are each ended by a separator, with a last piece. -/
theorem exists_ended {α : Type} [BEq α] [LawfulBEq α] (a : α) (cs : List α) :
    ∃ ls last, (∀ l ∈ ls ++ [last], a ∉ l) ∧ cs = ls.flatMap (· ++ [a]) ++ last := by
  rcases List.eq_nil_or_concat (cs.splitOn a) with hnil | ⟨ls, last, hsplit⟩
  · exact absurd hnil (List.splitOn_ne_nil a cs)
  · rw [List.concat_eq_append] at hsplit
    refine ⟨ls, last, fun l hl => notMem_of_mem_splitOn (hsplit ▸ hl), ?_⟩
    rw [← intercalate_concat, ← hsplit, List.intercalate_splitOn]

theorem mem_of_mem_chomp {c : Char} {cs : List Char} (h : c ∈ chomp cs) : c ∈ cs := by
  unfold chomp at h
  split at h
  · exact List.dropLast_subset _ h
  · exact h

theorem notMem_newline_of_mem_lines {cs l : List Char} (h : l ∈ lines cs) : '\n' ∉ l := by
  rcases List.mem_append.1 h with h | h
  · obtain ⟨p, hp, rfl⟩ := List.mem_map.1 h
    exact fun hn => notMem_of_mem_splitOn (List.dropLast_subset _ hp) (mem_of_mem_chomp hn)
  · split at h
    · cases h
    · cases h
    · rename_i last hlast
      rw [List.mem_singleton] at h
      exact h ▸ notMem_of_mem_splitOn (List.mem_of_getLast? hlast)

/-- What stands in a text of pieces is from a piece or parts them. -/
theorem eq_or_mem_of_mem_intercalate {a c : Char} : ∀ {ls : List (List Char)},
    c ∈ [a].intercalate ls → c = a ∨ ∃ l ∈ ls, c ∈ l
  | [], h => nomatch h
  | [l], h => .inr ⟨l, List.mem_cons_self, by simpa using h⟩
  | l :: l' :: ls, h => by
    rw [List.intercalate_cons_cons, List.mem_append, List.mem_append, List.mem_singleton, or_assoc] at h
    rcases h with h | rfl | h
    · exact .inr ⟨l, List.mem_cons_self, h⟩
    · exact .inl rfl
    · refine (eq_or_mem_of_mem_intercalate h).imp_right ?_
      rintro ⟨l'', hl, hc⟩
      exact ⟨l'', List.mem_cons_of_mem _ hl, hc⟩

/-! ## Records among lines -/

/-- The records that a reader of lines accepts, in order: a line that is a record is accepted, and
any other line is passed over. -/
inductive AcceptsLines {ρ : Type} (IsRecord : List Char → ρ → Prop) :
    List (List Char) → List ρ → Prop where
  | nil : AcceptsLines IsRecord [] []
  | record {line : List Char} {r : ρ} {ls : List (List Char)} {rs : List ρ} (h : IsRecord line r)
      (hrest : AcceptsLines IsRecord ls rs) : AcceptsLines IsRecord (line :: ls) (r :: rs)
  | skip {line : List Char} {ls : List (List Char)} {rs : List ρ} (h : ∀ r, ¬ IsRecord line r)
      (hrest : AcceptsLines IsRecord ls rs) : AcceptsLines IsRecord (line :: ls) rs

theorem acceptsLines_iff {ρ : Type} {IsRecord : List Char → ρ → Prop} {read : List Char → Option ρ}
    (hread : ∀ line r, read line = some r ↔ IsRecord line r) {ls : List (List Char)} {rs : List ρ} :
    AcceptsLines IsRecord ls rs ↔ ls.filterMap read = rs := by
  have hnone : ∀ line, read line = none ↔ ∀ r, ¬ IsRecord line r := fun line => by
    simp only [Option.eq_none_iff_forall_ne_some, ne_eq, hread]
  constructor
  · intro h
    induction h with
    | nil => rfl
    | record h _ ih => rw [List.filterMap_cons_some ((hread _ _).2 h), ih]
    | skip h _ ih => rw [List.filterMap_cons_none ((hnone _).2 h), ih]
  · rintro rfl
    induction ls with
    | nil => exact .nil
    | cons line ls ih =>
      cases hline : read line with
      | none =>
        rw [List.filterMap_cons_none hline]
        exact .skip ((hnone line).1 hline) ih
      | some r =>
        rw [List.filterMap_cons_some hline]
        exact .record ((hread line r).1 hline) ih

/-! ## Splitting once -/

theorem splitOnce_eq_some_iff {sep : Char} {cs a b : List Char} :
    splitOnce sep cs = some (a, b) ↔ cs = a ++ sep :: b ∧ sep ∉ a := by
  unfold splitOnce
  constructor
  · intro h
    split at h
    · cases h
    · rename_i c after heq
      cases h
      have hc : (c != sep) = false := by simpa [heq] using List.head?_dropWhile_not (· != sep) cs
      have hsplit := List.takeWhile_append_dropWhile (p := (· != sep)) (l := cs)
      rw [heq, show c = sep by simpa using hc] at hsplit
      exact ⟨hsplit.symm, fun hmem => by
        simpa using List.all_eq_true.1 List.all_takeWhile _ hmem⟩
  · rintro ⟨rfl, ha⟩
    have hall : ∀ c ∈ a, (c != sep) = true := fun c hc => by
      simpa using fun h : c = sep => ha (h ▸ hc)
    rw [List.dropWhile_append_of_pos hall, List.takeWhile_append_of_pos hall]
    simp

theorem splitOnce_eq_none_iff {sep : Char} {cs : List Char} : splitOnce sep cs = none ↔ sep ∉ cs := by
  constructor
  · intro h hmem
    obtain ⟨a, b, hcs, ha⟩ := List.eq_append_cons_of_mem hmem
    rw [splitOnce_eq_some_iff.2 ⟨hcs, ha⟩] at h
    cases h
  · intro h
    cases hsplit : splitOnce sep cs with
    | none => rfl
    | some parts =>
      obtain ⟨a, b⟩ := parts
      rw [(splitOnce_eq_some_iff.1 hsplit).1] at h
      exact absurd (List.mem_append_right a List.mem_cons_self) h

/-- What is put in front and behind, without the separator, goes with the two parts. -/
theorem splitOnce_append_append {sep : Char} {before after : List Char} (hb : sep ∉ before)
    (ha : sep ∉ after) (cs : List Char) : splitOnce sep (before ++ cs ++ after) =
      (splitOnce sep cs).map fun parts => (before ++ parts.1, parts.2 ++ after) := by
  cases hsplit : splitOnce sep cs with
  | none =>
    have hcs := splitOnce_eq_none_iff.1 hsplit
    rw [Option.map_none, splitOnce_eq_none_iff, List.mem_append, List.mem_append]
    exact not_or.2 ⟨not_or.2 ⟨hb, hcs⟩, ha⟩
  | some parts =>
    obtain ⟨a, b⟩ := parts
    obtain ⟨rfl, hno⟩ := splitOnce_eq_some_iff.1 hsplit
    rw [Option.map_some, splitOnce_eq_some_iff, List.mem_append]
    exact ⟨by simp only [List.append_assoc, List.cons_append], not_or.2 ⟨hb, hno⟩⟩

end DocSearch.Text
