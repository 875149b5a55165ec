/-
The order of hits. On binary64 it is a total order of all bit patterns, those that are no number
included, and two hits of different documents are never at the same place. So hits of different
documents have one sorted list, whatever order they are listed in, and hits that nothing else comes
before are, sorted by themselves, the first ones of that list.
-/
import DocSearch.Binary64.Round
import DocSearch.Ranking.Hit
import Mathlib.Data.List.Sort

namespace DocSearch

instance : Std.TransOrd Binary64 := inferInstanceAs (Std.TransCmp (compareOn Binary64.orderKey))

namespace Hit

variable {α : Type}

/-- The documents of a list of hits. -/
def docs (hs : List (Hit α)) : List DocId := hs.map Hit.doc

theorem docs_nodup_of_perm {hs hs' : List (Hit α)} (hp : hs'.Perm hs) (hn : (docs hs).Nodup) :
    (docs hs').Nodup :=
  ((hp.map Hit.doc).nodup_iff).2 hn

theorem nodup_docs_take (k : Nat) {hs : List (Hit α)} (hn : (docs hs).Nodup) :
    (docs (hs.take k)).Nodup :=
  ((List.take_sublist k hs).map Hit.doc).nodup hn

variable [Scalar α] [Ord α]

/-- Whether a hit comes before another one. -/
def Before (a b : Hit α) : Prop := order a b = .lt

instance (a b : Hit α) : Decidable (Before a b) := inferInstanceAs (Decidable (order a b = .lt))

theorem doc_eq_of_order_eq {a b : Hit α} (h : order a b = .eq) : a.doc = b.doc := by
  unfold order at h
  rw [Ordering.then_eq_eq, Ordering.then_eq_eq] at h
  exact Std.LawfulEqCmp.eq_of_compare h.2.2

/-- Of two hits of different documents the one that is not after the other is before it. -/
theorem before_of_isLE {a b : Hit α} (h : (order a b).isLE) (hd : a.doc ≠ b.doc) : Before a b := by
  unfold Before
  cases ho : order a b with
  | lt => rfl
  | eq => exact absurd (doc_eq_of_order_eq ho) hd
  | gt => rw [ho] at h; cases h

/-- What is cut off a list in order comes after all that is left of it. -/
theorem before_of_notMem_take {k : Nat} {hs : List (Hit α)} {a b : Hit α} (hp : hs.Pairwise Before)
    (ha : a ∈ hs.take k) (hb : b ∈ hs) (hnb : b ∉ hs.take k) : Before a b := by
  rw [← List.take_append_drop k hs] at hp hb
  exact (List.pairwise_append.1 hp).2.2 a ha b ((List.mem_append.1 hb).resolve_left hnb)

theorem sort_perm (hs : List (Hit α)) : (sort hs).Perm hs := List.mergeSort_perm ..

variable [Std.TransOrd α]

instance : Std.TransCmp (order : Hit α → Hit α → Ordering) :=
  inferInstanceAs (Std.TransCmp
    (compareLex (fun a b : Hit α => compareOn Hit.score b a)
      (compareLex (fun a b : Hit α => compareOn (fun h : Hit α => h.authority.getD Scalar.zero) b a)
        (compareOn Hit.doc))))

theorem before_asymm {a b : Hit α} (h : Before a b) : ¬ Before b a := by
  unfold Before at *
  have hswap : order b a = (order a b).swap := Std.OrientedCmp.eq_swap
  rw [hswap, h]
  decide

/-! ## The sorted list -/

theorem pairwise_sort_isLE (hs : List (Hit α)) :
    (sort hs).Pairwise fun a b => (order a b).isLE = true :=
  List.pairwise_mergeSort (fun _ _ _ => Std.TransCmp.isLE_trans)
    (fun a b => by
      have hswap : order b a = (order a b).swap := Std.OrientedCmp.eq_swap
      rw [hswap]
      cases order a b <;> rfl) hs

theorem pairwise_sort {hs : List (Hit α)} (hn : (docs hs).Nodup) : (sort hs).Pairwise Before := by
  have hd := List.pairwise_map.1 (docs_nodup_of_perm (sort_perm hs) hn)
  exact (pairwise_sort_isLE hs).imp₂ (fun _ _ h hd => before_of_isLE h hd) hd

/-- Only the sorted list has hits of different documents in order. -/
theorem eq_sort {hs l : List (Hit α)} (hn : (docs hs).Nodup) (hp : l.Perm hs)
    (hl : l.Pairwise Before) : l = sort hs :=
  List.Perm.eq_of_pairwise (fun _ _ _ _ h₁ h₂ => absurd h₂ (before_asymm h₁)) hl (pairwise_sort hn)
    (hp.trans (sort_perm hs).symm)

theorem sort_eq_self {hs : List (Hit α)} (hn : (docs hs).Nodup) (hl : hs.Pairwise Before) :
    sort hs = hs := (eq_sort hn (.refl _) hl).symm

/-- Hits that no other hit of a list comes before are, sorted by themselves, the first ones of the
sorted list. -/
theorem sort_eq_take {hs kept left : List (Hit α)} (hn : (docs hs).Nodup)
    (hp : (kept ++ left).Perm hs) (hle : ∀ a ∈ kept, ∀ b ∈ left, (order a b).isLE = true) :
    sort kept = (sort hs).take kept.length := by
  have hd : (docs (kept ++ left)).Nodup := docs_nodup_of_perm hp hn
  unfold docs at hd
  rw [List.map_append, List.nodup_append] at hd
  obtain ⟨hk, hl, hkl⟩ := hd
  have hall : sort kept ++ sort left = sort hs := by
    refine eq_sort hn (((sort_perm kept).append (sort_perm left)).trans hp) ?_
    refine List.pairwise_append.2 ⟨pairwise_sort hk, pairwise_sort hl, fun a ha b hb => ?_⟩
    have ha := (sort_perm kept).mem_iff.1 ha
    have hb := (sort_perm left).mem_iff.1 hb
    exact before_of_isLE (hle a ha b hb)
      (hkl _ (List.mem_map_of_mem ha) _ (List.mem_map_of_mem hb))
  rw [← hall, List.take_left' (sort_perm kept).length_eq]

end Hit

end DocSearch
