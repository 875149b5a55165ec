/-
Tables that are filled one entry after the other. Where entries are inserted, a key has the value of
the last entry for it, so what it has is known where all entries for it agree; where keys are
counted, a key has the number of its occurrences, and all keys together have as many as were counted.
-/
import Mathlib.Algebra.BigOperators.Group.Finset.Basic
import Mathlib.Algebra.GroupWithZero.Nat
import Std.Data.ExtTreeMap
import Std.Data.ExtTreeSet

namespace DocSearch

theorem values_eq_map_toList {κ β : Type} {cmp : κ → κ → Ordering} [Std.TransCmp cmp]
    (m : Std.ExtTreeMap κ β cmp) : m.values = m.toList.map (·.2) := by
  have hfoldr : m.values = m.foldr (fun _ b bs => b :: bs) [] := by
    obtain ⟨⟨q⟩⟩ := m
    exact Quotient.inductionOn q fun _ => rfl
  rw [hfoldr, Std.ExtTreeMap.foldr_eq_foldr_toList, List.map_eq_foldr]

/-! ## What a run adds -/

/-- Where each step adds to a property what its value gives, a run adds what any of its values gives. -/
theorem foldl_iff_exists {σ β : Type} (M : σ → Prop) (P : β → Prop) {step : σ → β → σ}
    (h : ∀ s b, M (step s b) ↔ P b ∨ M s) : ∀ (bs : List β) (s : σ),
    M (bs.foldl step s) ↔ (∃ b ∈ bs, P b) ∨ M s
  | [], s => by simp
  | b :: bs, s => by
    rw [List.foldl_cons, foldl_iff_exists M P h bs, h]
    simp only [List.mem_cons, exists_eq_or_imp]
    exact or_left_comm.trans or_assoc.symm

/-! ## The first and the last of some values -/

section FirstLast

variable {α : Type} {P : α → Prop} {l : List α} {a : α}

/-- Whether a value is the first one of a list that has a property. -/
def IsFirst (P : α → Prop) (l : List α) (a : α) : Prop :=
  ∃ before after, l = before ++ a :: after ∧ P a ∧ ∀ b ∈ before, ¬ P b

/-- Whether a value is the last one of a list that has a property. -/
def IsLast (P : α → Prop) (l : List α) (a : α) : Prop :=
  ∃ before after, l = before ++ a :: after ∧ P a ∧ ∀ b ∈ after, ¬ P b

theorem find?_eq_some_iff_isFirst [DecidablePred P] : l.find? (P ·) = some a ↔ IsFirst P l a := by
  rw [List.find?_eq_some_iff_append]
  simp only [decide_eq_true_eq, Bool.not_eq_true', decide_eq_false_iff_not]
  constructor
  · rintro ⟨ha, before, after, hl, hno⟩; exact ⟨before, after, hl, ha, hno⟩
  · rintro ⟨before, after, hl, ha, hno⟩; exact ⟨ha, before, after, hl, hno⟩

theorem find?_reverse_eq_some_iff [DecidablePred P] :
    l.reverse.find? (P ·) = some a ↔ IsLast P l a := by
  rw [List.find?_eq_some_iff_append]
  simp only [decide_eq_true_eq, Bool.not_eq_true', decide_eq_false_iff_not]
  constructor
  · rintro ⟨ha, after, before, hl, hno⟩
    refine ⟨before.reverse, after.reverse, ?_, ha, fun b hb => hno b (List.mem_reverse.1 hb)⟩
    rw [← List.reverse_reverse l, hl, List.reverse_append, List.reverse_cons, List.append_assoc]
    rfl
  · rintro ⟨before, after, rfl, ha, hno⟩
    refine ⟨ha, after.reverse, before.reverse, ?_, fun b hb => hno b (List.mem_reverse.1 hb)⟩
    rw [List.reverse_append, List.reverse_cons, List.append_assoc]
    rfl

theorem IsLast.holds (h : IsLast P l a) : P a := by
  obtain ⟨-, -, -, ha, -⟩ := h
  exact ha

theorem IsLast.unique {b : α} (ha : IsLast P l a) (hb : IsLast P l b) : a = b := by
  classical
  exact Option.some.inj ((find?_reverse_eq_some_iff.2 ha).symm.trans (find?_reverse_eq_some_iff.2 hb))

/-- The last value that is kept comes from the last one that is kept with the property. -/
theorem isLast_filterMap {β : Type} {f : β → Option α} {l : List β} :
    IsLast P (l.filterMap f) a ↔ ∃ b, IsLast (fun b => ∃ a, f b = some a ∧ P a) l b ∧ f b = some a := by
  constructor
  · rintro ⟨before, after, hl, ha, hno⟩
    obtain ⟨l₁, l₂, rfl, -, hl₂⟩ := List.filterMap_eq_append_iff.1 hl
    obtain ⟨l₃, b, l₄, rfl, -, hb, rfl⟩ := List.filterMap_eq_cons_iff.1 hl₂
    refine ⟨b, ⟨l₁ ++ l₃, l₄, by rw [List.append_assoc], ⟨a, hb, ha⟩, ?_⟩, hb⟩
    rintro b' hb' ⟨a', ha', hp⟩
    exact hno a' (List.mem_filterMap.2 ⟨b', hb', ha'⟩) hp
  · rintro ⟨b, ⟨before, after, rfl, ⟨a', ha', hp⟩, hno⟩, hb⟩
    cases hb.symm.trans ha'
    refine ⟨before.filterMap f, after.filterMap f, ?_, hp, fun a' ha' hp' => ?_⟩
    · rw [List.filterMap_append, List.filterMap_cons_some hb]
    · obtain ⟨b', hb', hf⟩ := List.mem_filterMap.1 ha'
      exact hno b' hb' ⟨a', hf, hp'⟩

end FirstLast

/-! ## Entries -/

section Inserts

variable {κ β γ : Type} [Ord κ] [Std.TransOrd κ] [Std.LawfulEqOrd κ] [DecidableEq κ]
  (key : γ → κ) (val : γ → β)

theorem getElem?_foldl_insert (k : κ) : ∀ (es : List γ) (m : Std.ExtTreeMap κ β),
    (es.foldl (fun m e => m.insert (key e) (val e)) m)[k]? =
      ((es.reverse.find? (key · = k)).map val).or m[k]?
  | [], _ => rfl
  | e :: es, m => by
    rw [List.foldl_cons, getElem?_foldl_insert k es, Std.ExtTreeMap.getElem?_insert, List.reverse_cons,
      List.find?_append]
    cases es.reverse.find? (key · = k) with
    | some e' => rfl
    | none => by_cases hk : key e = k <;> simp [hk]

/-- Inserted from the start, a key has the value of its last entry. -/
theorem getElem?_foldl_insert_empty_eq_some_iff {k : κ} {b : β} {es : List γ} :
    (es.foldl (fun m e => m.insert (key e) (val e)) (∅ : Std.ExtTreeMap κ β))[k]? = some b ↔
      ∃ e, IsLast (key · = k) es e ∧ val e = b := by
  rw [getElem?_foldl_insert, Std.ExtTreeMap.getElem?_empty, Option.or_none, Option.map_eq_some_iff]
  simp only [find?_reverse_eq_some_iff]

/-- Where all entries for a key agree, it has their value. -/
theorem getElem?_foldl_insert_of_mem {es : List γ} {m : Std.ExtTreeMap κ β} {e : γ} (he : e ∈ es)
    (h : ∀ e' ∈ es, key e' = key e → val e' = val e) :
    (es.foldl (fun m e => m.insert (key e) (val e)) m)[key e]? = some (val e) := by
  rw [getElem?_foldl_insert]
  cases hfind : es.reverse.find? (key · = key e) with
  | none =>
    have hne := List.find?_eq_none.1 hfind e (List.mem_reverse.2 he)
    simp at hne
  | some e' =>
    rw [Option.map_some, Option.some_or,
      h e' (List.mem_reverse.1 (List.mem_of_find?_eq_some hfind)) (by simpa using List.find?_some hfind)]

/-- What a key has is the value of an entry, or was there before. -/
theorem mem_of_getElem?_foldl_insert {k : κ} {b : β} {es : List γ} {m : Std.ExtTreeMap κ β}
    (h : (es.foldl (fun m e => m.insert (key e) (val e)) m)[k]? = some b) :
    (∃ e ∈ es, key e = k ∧ val e = b) ∨ m[k]? = some b := by
  rw [getElem?_foldl_insert] at h
  cases hfind : es.reverse.find? (key · = k) with
  | none => rw [hfind] at h; exact .inr h
  | some e =>
    rw [hfind] at h
    exact .inl ⟨e, List.mem_reverse.1 (List.mem_of_find?_eq_some hfind),
      by simpa using List.find?_some hfind, Option.some.inj h⟩

theorem exists_getElem?_foldl_insert_iff {k : κ} {es : List γ} {m : Std.ExtTreeMap κ β} :
    (∃ b, (es.foldl (fun m e => m.insert (key e) (val e)) m)[k]? = some b) ↔
      (∃ e ∈ es, key e = k) ∨ ∃ b, m[k]? = some b := by
  rw [getElem?_foldl_insert]
  cases hfind : es.reverse.find? (key · = k) with
  | none =>
    have hno : ¬ ∃ e ∈ es, key e = k := by simpa using hfind
    rw [Option.map_none, Option.none_or, or_iff_right hno]
  | some e =>
    have he : key e = k := by simpa using List.find?_some hfind
    rw [Option.map_some, Option.some_or]
    exact iff_of_true ⟨_, rfl⟩ (.inl ⟨e, List.mem_reverse.1 (List.mem_of_find?_eq_some hfind), he⟩)

/-- Where entries are only inserted for new keys, a key has the value of its first entry. -/
theorem getElem?_foldl_insertIfNew (k : κ) : ∀ (es : List γ) (m : Std.ExtTreeMap κ β),
    (es.foldl (fun m e => m.insertIfNew (key e) (val e)) m)[k]? =
      m[k]?.or ((es.find? (key · = k)).map val)
  | [], m => by rw [List.foldl_nil, List.find?_nil, Option.map_none, Option.or_none]
  | e :: es, m => by
    rw [List.foldl_cons, getElem?_foldl_insertIfNew k es, Std.ExtTreeMap.getElem?_insertIfNew,
      List.find?_cons]
    simp only [Std.compare_eq_iff_eq, Std.ExtTreeMap.mem_iff_isSome_getElem?]
    by_cases hk : key e = k
    · subst hk
      cases m[key e]? <;> simp
    · simp [hk]

/-- A table is made by inserting its entries. -/
theorem foldl_insert_toList (m : Std.ExtTreeMap κ β) :
    m.toList.foldl (fun m e => m.insert e.1 e.2) ∅ = m := by
  refine Std.ExtTreeMap.ext_getElem? fun {k} => Option.ext fun b => ?_
  constructor
  · intro h
    rcases mem_of_getElem?_foldl_insert (γ := κ × β) Prod.fst Prod.snd h with ⟨e, he, rfl, rfl⟩ | h
    · exact Std.ExtTreeMap.mem_toList_iff_getElem?_eq_some.1 he
    · rw [Std.ExtTreeMap.getElem?_empty] at h; cases h
  · intro h
    refine getElem?_foldl_insert_of_mem (γ := κ × β) Prod.fst Prod.snd (e := (k, b))
      (Std.ExtTreeMap.mem_toList_iff_getElem?_eq_some.2 h) fun e he hk => ?_
    have he := Std.ExtTreeMap.mem_toList_iff_getElem?_eq_some.1 he
    rw [hk, h] at he
    exact (Option.some.inj he).symm

end Inserts

/-! ## Counts -/

section Counts

variable {κ : Type} [Ord κ] [Std.TransOrd κ] [Std.LawfulEqOrd κ]

theorem nodup_toList (s : Std.ExtTreeSet κ) : s.toList.Nodup :=
  Std.ExtTreeSet.distinct_toList.imp fun h he => h (Std.compare_eq_iff_eq.2 he)

variable [DecidableEq κ]

theorem count_toList (s : Std.ExtTreeSet κ) (k : κ) : s.toList.count k = if k ∈ s then 1 else 0 := by
  rw [(nodup_toList s).count]
  simp only [Std.ExtTreeSet.mem_toList]

theorem getElem?_foldl_count (k : κ) : ∀ (ks : List κ) (m : Std.ExtTreeMap κ Nat),
    (ks.foldl (fun m k => m.alter k fun n => some (n.getD 0 + 1)) m)[k]? =
      if k ∈ ks then some (m[k]?.getD 0 + ks.count k) else m[k]?
  | [], m => by rw [List.foldl_nil, if_neg List.not_mem_nil]
  | x :: ks, m => by
    rw [List.foldl_cons, getElem?_foldl_count k ks]
    simp only [Std.ExtTreeMap.getElem?_alter, Std.compare_eq_iff_eq]
    by_cases hx : x = k
    · subst hx
      rw [if_pos rfl, if_pos List.mem_cons_self, List.count_cons_self, Option.getD_some]
      split
      · rw [Nat.add_assoc, Nat.add_comm 1]
      · rename_i hk
        rw [List.count_eq_zero.2 hk]
    · rw [if_neg hx, List.count_cons_of_ne hx]
      simp only [List.mem_cons, Ne.symm hx, false_or]

/-- Counted from the start, a key is in the table exactly if it occurs. -/
theorem getElem?_foldl_count_empty (k : κ) (ks : List κ) :
    (ks.foldl (fun m k => m.alter k fun n => some (n.getD 0 + 1)) (∅ : Std.ExtTreeMap κ Nat))[k]? =
      if k ∈ ks then some (ks.count k) else none := by
  rw [getElem?_foldl_count, Std.ExtTreeMap.getElem?_empty, Option.getD_none, Nat.zero_add]

/-- The number that a key has in the table is that of its occurrences. -/
theorem toList_foldl_count (ks : List κ) :
    (ks.foldl (fun m k => m.alter k fun n => some (n.getD 0 + 1))
      (∅ : Std.ExtTreeMap κ Nat)).toList =
    (ks.foldl (fun m k => m.alter k fun n => some (n.getD 0 + 1))
      (∅ : Std.ExtTreeMap κ Nat)).keys.map fun k => (k, ks.count k) := by
  rw [← Std.ExtTreeMap.map_fst_toList_eq_keys, List.map_map]
  refine (List.map_id _).symm.trans (List.map_congr_left fun ⟨k, n⟩ he => ?_)
  have he := Std.ExtTreeMap.mem_toList_iff_getElem?_eq_some.1 he
  rw [getElem?_foldl_count_empty] at he
  exact congrArg (Prod.mk k) (Option.some.inj (Option.ite_none_right_eq_some.1 he).2).symm

theorem values_foldl_count (ks : List κ) :
    (ks.foldl (fun m k => m.alter k fun n => some (n.getD 0 + 1))
      (∅ : Std.ExtTreeMap κ Nat)).values =
    (ks.foldl (fun m k => m.alter k fun n => some (n.getD 0 + 1))
      (∅ : Std.ExtTreeMap κ Nat)).keys.map (ks.count ·) := by
  rw [values_eq_map_toList, toList_foldl_count, List.map_map]
  rfl

/-- A sum over the table takes what belongs to a key as often as the key occurs. -/
theorem sum_map_toList_foldl_count (f : κ → Nat) (ks : List κ) :
    ((ks.foldl (fun m k => m.alter k fun n => some (n.getD 0 + 1))
      (∅ : Std.ExtTreeMap κ Nat)).toList.map fun e => e.2 * f e.1).sum = (ks.map f).sum := by
  rw [toList_foldl_count, List.map_map]
  generalize hm : ks.foldl (fun m k => m.alter k fun n => some (n.getD 0 + 1))
    (∅ : Std.ExtTreeMap κ Nat) = m
  have hkeys : m.keys.toFinset = ks.toFinset := by
    ext k
    rw [List.mem_toFinset, List.mem_toFinset, Std.ExtTreeMap.mem_keys,
      Std.ExtTreeMap.mem_iff_isSome_getElem?, ← hm, getElem?_foldl_count_empty]
    split <;> simp [*]
  rw [← List.sum_toFinset _ Std.ExtTreeMap.nodup_keys, hkeys, Finset.sum_list_map_count]
  rfl

theorem sum_values_foldl_count (ks : List κ) :
    (ks.foldl (fun m k => m.alter k fun n => some (n.getD 0 + 1))
      (∅ : Std.ExtTreeMap κ Nat)).values.sum = ks.length := by
  have hones := sum_map_toList_foldl_count (fun _ => 1) ks
  simp only [Nat.mul_one] at hones
  rw [values_eq_map_toList, hones, List.map_const', List.sum_replicate_nat, Nat.mul_one]

end Counts

end DocSearch
