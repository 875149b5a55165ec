/-
Tokens of a query that is put together from texts. White space and parentheses end the context of
every letter, so the tokens on either side of one are those that the side has alone.
-/
import Mathlib.Data.List.Basic
import DocSearch.BoolQuery.Token
import DocSearch.Proofs.Text.CharRanges
import DocSearch.Proofs.Text.Lowercase
import DocSearch.Proofs.Text.Lowercased
import DocSearch.Proofs.Text.Words

namespace DocSearch.BoolQuery

open Text

/-- White space is left as it is, and is neither a letter with case nor passed over. -/
theorem isBreak_of_isBlank {c : Char} (hc : isBlank c = true) : IsBreak c where
  isLower := by
    have hapart : ∀ d ∈ CharRanges.apart, c ≠ d := by
      rintro d hd rfl
      rw [isBlank, covers_apart CharRanges.kept_blankRanges hd] at hc
      cases hc
    exact ⟨hapart 'Σ' (by decide), hapart 'İ' (by decide),
      lowerSimple_of_covers CharRanges.kept_blankRanges hc⟩
  noticed := CharRanges.covers_eq_false_of_disjoint (by decide : blankRanges.ascending 0)
    (by decide +kernel : caseIgnorableRanges.ascending 0) (by decide +kernel) hc
  uncased := CharRanges.covers_eq_false_of_disjoint (by decide : blankRanges.ascending 0)
    (by decide +kernel : casedRanges.ascending 0) (by decide +kernel) hc

theorem isBreak_of_paren {c : Char} (hc : c = '(' ∨ c = ')') : IsBreak c := by
  rcases hc with rfl | rfl <;> exact ⟨by decide, by decide, by decide⟩

theorem queryWords_append_blank {b : Char} (hb : isBlank b = true) (x y : String) :
    queryWords (x ++ .ofList [b] ++ y) = queryWords x ++ queryWords y := by
  have hlist : (x ++ .ofList [b] ++ y).toList = x.toList ++ b :: y.toList := by simp
  have hspace : spaceOut b = [b] := by
    refine if_neg ?_
    rintro (rfl | rfl) <;> exact absurd hb (by decide)
  unfold queryWords
  rw [hlist, lower_append_cons (isBreak_of_isBlank hb), List.flatMap_append, List.flatMap_cons, hspace,
    List.singleton_append, words_append_cons hb, List.map_append]

theorem queryWords_append_space (x y : String) :
    queryWords (x ++ " " ++ y) = queryWords x ++ queryWords y :=
  queryWords_append_blank (by decide : isBlank ' ' = true) x y

theorem queryWords_append_paren {c : Char} (hc : c = '(' ∨ c = ')') (x y : String) :
    queryWords (x ++ .ofList [c] ++ y) = queryWords x ++ .ofList [c] :: queryWords y := by
  have hlist : (x ++ .ofList [c] ++ y).toList = x.toList ++ c :: y.toList := by simp
  have hspaced : ∀ cs, spaceOut c ++ cs = ' ' :: ([c] ++ ' ' :: cs) := fun cs => by
    rw [spaceOut, if_pos hc]; rfl
  have hword : words [c] = [[c]] := by rcases hc with rfl | rfl <;> decide
  unfold queryWords
  rw [hlist, lower_append_cons (isBreak_of_paren hc), List.flatMap_append, List.flatMap_cons, hspaced,
    words_append_cons (by decide), words_append_cons (by decide), hword, List.map_append,
    List.map_append]
  rfl

/-- A text without blanks and parentheses is a single word. -/
theorem queryWords_of_isWord {t : String} (hw : IsWord t.toList) (hopen : '(' ∉ t.toList)
    (hclose : ')' ∉ t.toList) : queryWords t = [lowerString t] := by
  have hspaced : (lower t.toList).flatMap spaceOut = lower t.toList := by
    have hsame : ∀ a ∈ lower t.toList, spaceOut a = [a] := fun a ha => by
      refine if_neg ?_
      rintro (rfl | rfl)
      · exact hopen ((mem_lower_of_kept CharRanges.kept_opening).1 ha)
      · exact hclose ((mem_lower_of_kept CharRanges.kept_closing).1 ha)
    rw [List.flatMap_congr hsame, List.flatMap_singleton']
  rw [queryWords, hspaced, words_of_isWord (isWord_lower.2 hw), List.map_singleton, lowerString]

theorem tokens_append_space (x y : String) : tokens (x ++ " " ++ y) = tokens x ++ tokens y := by
  rw [tokens, queryWords_append_space, List.map_append, tokens, tokens]

theorem tokens_append_opening (x y : String) :
    tokens (x ++ "(" ++ y) = tokens x ++ .opening :: tokens y := by
  have hwords := queryWords_append_paren (.inl rfl : '(' = '(' ∨ '(' = ')') x y
  rw [tokens, show "(" = String.ofList ['('] from rfl, hwords, List.map_append, List.map_cons]
  rfl

theorem tokens_append_closing (x y : String) :
    tokens (x ++ ")" ++ y) = tokens x ++ .closing :: tokens y := by
  have hwords := queryWords_append_paren (.inr rfl : ')' = '(' ∨ ')' = ')') x y
  rw [tokens, show ")" = String.ofList [')'] from rfl, hwords, List.map_append, List.map_cons]
  rfl

end DocSearch.BoolQuery
