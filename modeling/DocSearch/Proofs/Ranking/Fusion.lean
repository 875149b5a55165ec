/-
Fusion of two lists of hits, and fused search. Fusing lists in which no document is repeated gives
each document of either list once, with the weighted sum of the scores it has there, in the order of
hits. A fused search fuses the best hits of the two spaces, not their whole rankings: it agrees with
the fusion of the rankings as long as neither space has more documents than are taken from it.
-/
import DocSearch.Defaults
import DocSearch.Proofs.Inserts
import DocSearch.Proofs.Ranking.TopK
import DocSearch.Ranking.Fuse
import Mathlib.Data.List.Rotate

namespace DocSearch

namespace Ranking

variable {α : Type} [Scalar α]

/-! ## Look-ups in the merged hits -/

/-- The hit of a document in a list. -/
def hitOf (hs : List (Hit α)) (d : DocId) : Option (Hit α) := hs.find? (·.doc == d)

/-- The fused hit of a document from its hits in the two lists: the weighted sum of its scores,
without the side that it has no hit on. -/
def fuseHits (weight : α) : Option (Hit α) → Option (Hit α) → Option (Hit α)
  | some t, some l => some { t with score := weight * t.score + (Scalar.one - weight) * l.score }
  | some t, none => some { t with score := weight * t.score }
  | none, some l => some { l with score := (Scalar.one - weight) * l.score }
  | none, none => none

omit [Scalar α] in
theorem doc_of_hitOf {hs : List (Hit α)} {d : DocId} {h : Hit α} (hh : hitOf hs d = some h) :
    h.doc = d := by
  simpa using List.find?_some hh

omit [Scalar α] in
theorem hitOf_eq_none {hs : List (Hit α)} {d : DocId} (hd : d ∉ Hit.docs hs) : hitOf hs d = none := by
  refine List.find?_eq_none.2 fun h hh heq => hd ?_
  have heq : h.doc = d := by simpa using heq
  exact heq ▸ List.mem_map_of_mem hh

theorem doc_of_fuseHits {weight : α} {t l : Option (Hit α)} {d : DocId} {h : Hit α}
    (ht : ∀ x, t = some x → x.doc = d) (hl : ∀ x, l = some x → x.doc = d)
    (hh : fuseHits weight t l = some h) : h.doc = d := by
  rcases t with _ | t <;> rcases l with _ | l <;> cases hh
  · exact hl l rfl
  · exact ht t rfl
  · exact ht t rfl

/-- The merged hits after the first list. -/
theorem getElem?_addFirst (weight : α) (d : DocId) : ∀ (hs : List (Hit α))
    (m : Std.ExtTreeMap DocId (Hit α)), (Hit.docs hs).Nodup →
    (hs.foldl (addFirst weight) m)[d]? = (fuseHits weight (hitOf hs d) none).or m[d]?
  | [], m, _ => rfl
  | h :: hs, m, hn => by
    obtain ⟨hnot, hn⟩ := List.nodup_cons.1 hn
    rw [List.foldl_cons, getElem?_addFirst weight d hs _ hn, addFirst, Std.ExtTreeMap.getElem?_insert]
    by_cases hd : h.doc = d
    · -- the documents differ, so no later hit replaces this one
      subst hd
      rw [hitOf_eq_none hnot, if_pos (by simp)]
      simp [hitOf, fuseHits]
    · rw [if_neg (by simpa using hd)]
      simp [hitOf, hd]

theorem getElem?_addSecond_of_notMem (weight : α) (d : DocId) : ∀ (hs : List (Hit α))
    (m : Std.ExtTreeMap DocId (Hit α)), d ∉ Hit.docs hs → (hs.foldl (addSecond weight) m)[d]? = m[d]?
  | [], m, _ => rfl
  | h :: hs, m, hd => by
    have hne : h.doc ≠ d := fun he => hd (he ▸ List.mem_cons_self ..)
    rw [List.foldl_cons, getElem?_addSecond_of_notMem weight d hs _ fun hm => hd (List.mem_cons_of_mem _ hm),
      addSecond, Std.ExtTreeMap.getElem?_alter, if_neg (by simpa using hne)]

/-- The merged hits after the second list, for a document whose hit in the first list is `t`. -/
theorem getElem?_addSecond (weight : α) {d : DocId} {t : Option (Hit α)} : ∀ (hs : List (Hit α))
    (m : Std.ExtTreeMap DocId (Hit α)), (Hit.docs hs).Nodup → m[d]? = fuseHits weight t none →
    (hs.foldl (addSecond weight) m)[d]? = fuseHits weight t (hitOf hs d)
  | [], m, _, hm => hm
  | h :: hs, m, hn, hm => by
    obtain ⟨hnot, hn⟩ := List.nodup_cons.1 hn
    rw [List.foldl_cons]
    by_cases hd : h.doc = d
    · subst hd
      rw [getElem?_addSecond_of_notMem weight _ hs _ hnot, addSecond, Std.ExtTreeMap.getElem?_alter_self, hm]
      cases t <;> simp [hitOf, fuseHits]
    · have hm' : (addSecond weight m h)[d]? = fuseHits weight t none := by
        rw [addSecond, Std.ExtTreeMap.getElem?_alter, if_neg (by simpa using hd), hm]
      rw [getElem?_addSecond weight hs _ hn hm']
      simp [hitOf, hd]

/-- The hits of two lists, merged but not yet sorted. -/
def merged (first second : List (Hit α)) (weight : α) : Std.ExtTreeMap DocId (Hit α) :=
  second.foldl (addSecond weight) (first.foldl (addFirst weight) ∅)

theorem getElem?_merged {first second : List (Hit α)} (hf : (Hit.docs first).Nodup)
    (hs : (Hit.docs second).Nodup) (weight : α) (d : DocId) :
    (merged first second weight)[d]? = fuseHits weight (hitOf first d) (hitOf second d) := by
  refine getElem?_addSecond weight second _ hs ?_
  rw [getElem?_addFirst weight d first ∅ hf, Std.ExtTreeMap.getElem?_empty, Option.or_none]

theorem doc_of_merged {first second : List (Hit α)} (hf : (Hit.docs first).Nodup)
    (hs : (Hit.docs second).Nodup) {weight : α} {d : DocId} {h : Hit α}
    (hh : (merged first second weight)[d]? = some h) : h.doc = d := by
  rw [getElem?_merged hf hs] at hh
  exact doc_of_fuseHits (fun _ => doc_of_hitOf) (fun _ => doc_of_hitOf) hh

/-! ## The fused list -/

theorem docs_values_merged {first second : List (Hit α)} (hf : (Hit.docs first).Nodup)
    (hs : (Hit.docs second).Nodup) (weight : α) :
    Hit.docs (merged first second weight).values = (merged first second weight).keys := by
  rw [Hit.docs, values_eq_map_toList, List.map_map, ← Std.ExtTreeMap.map_fst_toList_eq_keys]
  refine List.map_congr_left fun r hr => ?_
  exact doc_of_merged hf hs (Std.ExtTreeMap.mem_toList_iff_getElem?_eq_some.1 hr)

theorem nodup_values_merged {first second : List (Hit α)} (hf : (Hit.docs first).Nodup)
    (hs : (Hit.docs second).Nodup) (weight : α) :
    (Hit.docs (merged first second weight).values).Nodup := by
  rw [docs_values_merged hf hs]; exact Std.ExtTreeMap.nodup_keys

variable [Ord α]

theorem fuse_perm (first second : List (Hit α)) (weight : α) :
    (fuse first second weight).Perm (merged first second weight).values := Hit.sort_perm _

theorem nodup_fuse {first second : List (Hit α)} (hf : (Hit.docs first).Nodup)
    (hs : (Hit.docs second).Nodup) (weight : α) : (Hit.docs (fuse first second weight)).Nodup :=
  Hit.docs_nodup_of_perm (fuse_perm first second weight) (nodup_values_merged hf hs weight)

/-- The fused list holds exactly the fused hits of the documents of both lists. -/
theorem mem_fuse {first second : List (Hit α)} (hf : (Hit.docs first).Nodup)
    (hs : (Hit.docs second).Nodup) (weight : α) (h : Hit α) : h ∈ fuse first second weight ↔
      fuseHits weight (hitOf first h.doc) (hitOf second h.doc) = some h := by
  rw [(fuse_perm first second weight).mem_iff, values_eq_map_toList, List.mem_map]
  constructor
  · rintro ⟨⟨d, g⟩, hg, rfl⟩
    have hg := Std.ExtTreeMap.mem_toList_iff_getElem?_eq_some.1 hg
    obtain rfl := doc_of_merged hf hs hg
    rwa [getElem?_merged hf hs] at hg
  · intro hh
    rw [← getElem?_merged hf hs] at hh
    exact ⟨(h.doc, h), Std.ExtTreeMap.mem_toList_iff_getElem?_eq_some.2 hh, rfl⟩

theorem pairwise_fuse [Std.TransOrd α] {first second : List (Hit α)} (hf : (Hit.docs first).Nodup)
    (hs : (Hit.docs second).Nodup) (weight : α) : (fuse first second weight).Pairwise Hit.Before :=
  Hit.pairwise_sort (nodup_values_merged hf hs weight)

end Ranking

namespace Engine

variable {α : Type} [RealScalar α] [Ord α]

/-! ## Fused search -/

/-- The best hits of a space that a fused search for `k` hits looks at. -/
def shortlist (e : Engine α) (s : Space) (query : String) (k : Nat) : List (Hit α) :=
  (e.ranking s query).take (e.fusedWidth k)

theorem nodup_shortlist (e : Engine α) (s : Space) (query : String) (k : Nat) :
    (Hit.docs (e.shortlist s query k)).Nodup :=
  Hit.nodup_docs_take _ (nodup_ranking e s query)

/-- A space without more documents than a fused search takes from it is looked at as a whole. -/
theorem shortlist_eq_ranking {e : Engine α} {s : Space} (query : String) {k : Nat}
    (h : (e.model.space s).numDocs ≤ e.fusedWidth k) : e.shortlist s query k = e.ranking s query :=
  List.take_of_length_le (by rwa [length_ranking])

variable [Std.TransOrd α]

/-- The hits of a space that are left out come after all those of a shortlist, which is full then. -/
theorem before_of_notMem_shortlist {e : Engine α} {s : Space} {query : String} {k : Nat} {h : Hit α}
    (hh : h ∈ e.ranking s query) (hn : h ∉ e.shortlist s query k) :
    (e.shortlist s query k).length = e.fusedWidth k ∧ ∀ g ∈ e.shortlist s query k, Hit.Before g h := by
  refine ⟨?_, fun g hg => Hit.before_of_notMem_take (pairwise_ranking e s query) hg hh hn⟩
  rw [← List.take_append_drop (e.fusedWidth k) (e.ranking s query)] at hh
  have hpos := List.length_pos_of_mem ((List.mem_append.1 hh).resolve_left hn)
  rw [List.length_drop] at hpos
  rw [shortlist, List.length_take]
  omega

/-- A document has no hit in a shortlist exactly if it has none in the space or if the shortlist is
full of hits before that one. -/
theorem hitOf_shortlist_eq_none (e : Engine α) (s : Space) (query : String) (k : Nat) (d : DocId) :
    Ranking.hitOf (e.shortlist s query k) d = none ↔ ∀ h ∈ e.ranking s query, h.doc = d →
      (e.shortlist s query k).length = e.fusedWidth k ∧
        ∀ g ∈ e.shortlist s query k, Hit.Before g h := by
  constructor
  · intro hnone h hh hd
    refine before_of_notMem_shortlist hh fun hm => ?_
    exact List.find?_eq_none.1 hnone h hm (by simpa using hd)
  · intro hall
    refine List.find?_eq_none.2 fun h hm hd => ?_
    -- a hit of the shortlist would come before itself
    have hself := (hall h (List.mem_of_mem_take hm) (by simpa using hd)).2 h hm
    exact Hit.before_asymm hself hself

/-- A fused search is a cut of the fusion of the two shortlists. -/
theorem searchFused_eq_take (e : Engine α) (query : String) (k : Nat) :
    e.searchFused query k = (Ranking.fuse (e.shortlist .tokens query k) (e.shortlist .lemmas query k)
      e.config.fusionWeight).take k := by
  rw [searchFused, search_eq_take, search_eq_take]
  rfl

/-- The fused hit of a document that stands in the shortlist of either space. -/
def fusedHit (e : Engine α) (query : String) (k : Nat) (d : DocId) : Option (Hit α) :=
  Ranking.fuseHits e.config.fusionWeight (Ranking.hitOf (e.shortlist .tokens query k) d)
    (Ranking.hitOf (e.shortlist .lemmas query k) d)

/-- Fused search ranks the documents of the two shortlists by their weighted sums. It returns the
first `k` of the fusion, each document once, in strict order and with its fused hit, in which a space
is without weight only if it does not have the document or has a full shortlist before it; no document
of the shortlists with a better fused hit is missed. When no space is greater than its shortlist, the
answer is the first `k` of the fusion of the whole rankings. -/
theorem searchFused_exact (e : Engine Binary64) (query : String) (k : Nat) :
    k ≤ e.fusedWidth k ∧
    e.searchFused query k = (Ranking.fuse (e.shortlist .tokens query k) (e.shortlist .lemmas query k)
      e.config.fusionWeight).take k ∧
    (Hit.docs (e.searchFused query k)).Nodup ∧ (e.searchFused query k).Pairwise Hit.Before ∧
    (∀ h ∈ e.searchFused query k, e.fusedHit query k h.doc = some h) ∧
    (∀ s d, Ranking.hitOf (e.shortlist s query k) d = none ↔ ∀ h ∈ e.ranking s query, h.doc = d →
      (e.shortlist s query k).length = e.fusedWidth k ∧
        ∀ g ∈ e.shortlist s query k, Hit.Before g h) ∧
    (∀ a ∈ e.searchFused query k, ∀ d b, e.fusedHit query k d = some b →
      b ∉ e.searchFused query k → Hit.Before a b) ∧
    ((∀ s, (e.model.space s).numDocs ≤ e.fusedWidth k) →
      e.searchFused query k = (Ranking.fuse (e.ranking .tokens query) (e.ranking .lemmas query)
        e.config.fusionWeight).take k) := by
  have hcut := searchFused_eq_take e query k
  have htokens := nodup_shortlist e .tokens query k
  have hlemmas := nodup_shortlist e .lemmas query k
  have hnodup := Ranking.nodup_fuse htokens hlemmas e.config.fusionWeight
  have hpair := Ranking.pairwise_fuse htokens hlemmas e.config.fusionWeight
  have hmem := Ranking.mem_fuse htokens hlemmas e.config.fusionWeight
  refine ⟨Nat.le_max_right .., hcut, ?_, ?_, fun h hh => ?_,
    fun s d => hitOf_shortlist_eq_none e s query k d, fun a ha d b hb hnb => ?_, fun hall => ?_⟩
  · rw [hcut]; exact Hit.nodup_docs_take k hnodup
  · rw [hcut]; exact hpair.sublist (List.take_sublist k _)
  · rw [hcut] at hh
    exact (hmem h).1 (List.mem_of_mem_take hh)
  · obtain rfl : b.doc = d :=
      Ranking.doc_of_fuseHits (fun _ => Ranking.doc_of_hitOf) (fun _ => Ranking.doc_of_hitOf) hb
    rw [hcut] at ha hnb
    exact Hit.before_of_notMem_take hpair ha ((hmem b).2 hb) hnb
  · rw [hcut, shortlist_eq_ranking query (hall .tokens), shortlist_eq_ranking query (hall .lemmas)]

/-- Two spaces that share one document, which in each of them comes after four others. -/
def crowded : Engine Binary64 where
  model :=
    let one := Binary64.ofRatio false 1 1
    let own := [WeightRecord.mk "cat" one one]
    let shared := [WeightRecord.mk "cat" one one, WeightRecord.mk "dog" one one]
    { tokens := TermSpace.ofDocuments [(1, own), (2, own), (3, own), (4, own), (9, shared)]
      lemmas := TermSpace.ofDocuments [(5, own), (6, own), (7, own), (8, own), (9, shared)]
      table := ∅ }
  authority := none
  config := RankingConfig.standard

theorem ranking_crowded (s : Space) : crowded.ranking s "cat" = crowded.candidates s "cat" :=
  Hit.sort_eq_self (nodup_candidates ..) (by cases s <;> decide +kernel)

/-- The shared document has the greatest weighted sum, but it is in neither shortlist. -/
theorem searchFused_crowded :
    Hit.docs (crowded.searchFused "cat" 1) = [1] ∧
    Hit.docs ((Ranking.fuse (crowded.ranking .tokens "cat") (crowded.ranking .lemmas "cat")
      crowded.config.fusionWeight).take 1) = [9] := by
  rw [searchFused_eq_take, shortlist, shortlist, ranking_crowded, ranking_crowded]
  constructor
  · rw [Ranking.fuse, Hit.sort_eq_self (by decide +kernel) (by decide +kernel)]
    decide +kernel
  · -- by document the shared one is the last of the nine, by weighted sum the first
    have hfuse : Ranking.fuse (crowded.candidates .tokens "cat") (crowded.candidates .lemmas "cat")
        crowded.config.fusionWeight = (Ranking.merged (crowded.candidates .tokens "cat")
          (crowded.candidates .lemmas "cat") crowded.config.fusionWeight).values.rotate 8 :=
      (Hit.eq_sort (by decide +kernel) (List.rotate_perm _ _) (by decide +kernel)).symm
    rw [hfuse]
    decide +kernel

end Engine

end DocSearch
