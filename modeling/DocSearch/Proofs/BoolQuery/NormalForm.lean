/-
The words of a query as a normal form. A query is without blanks and parentheses, and then a single
word or nothing, or it can be cut at one of these. Cutting commutes with lowercasing the query as a
whole, because the character at the cut ends the context of the letters on either side. So the words
of any query are known from the two sides of any cut, and cutting the words again gives nothing new.
-/
import DocSearch.Proofs.BoolQuery.Tokens

namespace DocSearch.BoolQuery

open Text

variable {x w : String} {c : Char}

/-! ## Cuts -/

/-- Whether a character ends a word of a query. -/
def IsDelimiter (c : Char) : Prop := isBlank c = true ∨ c = '(' ∨ c = ')'

theorem isBreak_of_isDelimiter (h : IsDelimiter c) : IsBreak c :=
  h.elim isBreak_of_isBlank isBreak_of_paren

/-- Whether a text is a single word without parentheses. -/
structure IsPlainWord (w : String) : Prop where
  word : IsWord w.toList
  opening : '(' ∉ w.toList
  closing : ')' ∉ w.toList

theorem isPlainWord_of_uncut (hx : x ≠ "") (h : ∀ c ∈ x.toList, ¬ IsDelimiter c) : IsPlainWord x where
  word := ⟨fun hnil => hx (String.toList_eq_nil_iff.1 hnil),
    fun c hc => Bool.eq_false_iff.2 fun hblank => h c hc (.inl hblank)⟩
  opening := fun hc => h _ hc (.inr (.inl rfl))
  closing := fun hc => h _ hc (.inr (.inr rfl))

/-- What holds of the empty text and of words without parentheses, and of a text if it holds of the
two sides of a delimiter in it, holds of every text. -/
@[elab_as_elim]
theorem cut_induction {motive : String → Prop} (empty : motive "")
    (plain : ∀ w, IsPlainWord w → motive w)
    (cut : ∀ x y c, IsDelimiter c → motive x → motive y → motive (x ++ .ofList [c] ++ y))
    (x : String) : motive x := by
  -- the sides of any delimiter are shorter than the text, whichever is taken
  induction hlength : x.toList.length using Nat.strongRecOn generalizing x with
  | ind n ih =>
    by_cases h : ∃ c ∈ x.toList, IsDelimiter c
    · obtain ⟨c, hc, hdelimiter⟩ := h
      obtain ⟨before, after, hx⟩ := List.append_of_mem hc
      have hjoin : x = .ofList before ++ .ofList [c] ++ .ofList after := by
        rw [← String.toList_inj, hx]
        simp
      have hsides : before.length < n ∧ after.length < n := by
        rw [← hlength, hx, List.length_append, List.length_cons]
        omega
      rw [hjoin]
      exact cut _ _ c hdelimiter (ih _ hsides.1 _ (by rw [String.toList_ofList]))
        (ih _ hsides.2 _ (by rw [String.toList_ofList]))
    · have huncut : ∀ c ∈ x.toList, ¬ IsDelimiter c := fun c hc hdelimiter => h ⟨c, hc, hdelimiter⟩
      by_cases hx : x = ""
      · rw [hx]
        exact empty
      · exact plain x (isPlainWord_of_uncut hx huncut)

/-! ## The form of the words -/

theorem isPlainWord_lowerString (h : IsPlainWord w) : IsPlainWord (lowerString w) := by
  unfold lowerString
  constructor <;> rw [String.toList_ofList]
  · exact isWord_lower.2 h.word
  · exact fun hc => h.opening ((mem_lower_of_kept CharRanges.kept_opening).1 hc)
  · exact fun hc => h.closing ((mem_lower_of_kept CharRanges.kept_closing).1 hc)

theorem queryWords_of_isPlainWord (h : IsPlainWord w) : queryWords w = [lowerString w] :=
  queryWords_of_isWord h.word h.opening h.closing

theorem queryWords_empty : queryWords "" = [] := by decide +kernel

/-- A word of a query is a parenthesis, or holds none and is in lowercase. -/
theorem form_of_mem_queryWords (x : String) : ∀ w ∈ queryWords x,
    w = "(" ∨ w = ")" ∨ IsPlainWord w ∧ lowerString w = w := by
  induction x using cut_induction with
  | empty =>
    rw [queryWords_empty]
    exact nofun
  | plain w hplain =>
    rw [queryWords_of_isPlainWord hplain, List.forall_mem_singleton]
    refine .inr (.inr ⟨isPlainWord_lowerString hplain, ?_⟩)
    rw [lowerString, lowerString, String.toList_ofList, lower_lower]
  | cut x y c hc ihx ihy =>
    rcases hc with hblank | hparen
    · rw [queryWords_append_blank hblank, List.forall_mem_append]
      exact ⟨ihx, ihy⟩
    · rw [queryWords_append_paren hparen, List.forall_mem_append, List.forall_mem_cons]
      refine ⟨ihx, ?_, ihy⟩
      rcases hparen with rfl | rfl
      · exact .inl rfl
      · exact .inr (.inl rfl)

/-- A word of a query, read as a query, is that word. -/
theorem queryWords_of_mem_queryWords (h : w ∈ queryWords x) : queryWords w = [w] := by
  rcases form_of_mem_queryWords x w h with rfl | rfl | ⟨hplain, hlower⟩
  · decide +kernel
  · decide +kernel
  · rw [queryWords_of_isPlainWord hplain, hlower]

/-! ## What the words hold -/

/-- The words, one after the other, are the lowercase of the query without its blanks. -/
theorem flatMap_toList_queryWords (x : String) :
    (queryWords x).flatMap String.toList = (lower x.toList).filter (!isBlank ·) := by
  induction x using cut_induction with
  | empty =>
    rw [queryWords_empty]
    rfl
  | plain w hplain =>
    have hblank : ∀ c ∈ lower w.toList, isBlank c = false := (isWord_lower.2 hplain.word).2
    rw [queryWords_of_isPlainWord hplain, List.flatMap_singleton, lowerString, String.toList_ofList,
      List.filter_eq_self.2 fun c hc => by rw [hblank c hc]; rfl]
  | cut x y c hc ihx ihy =>
    have hlist : (x ++ .ofList [c] ++ y).toList = x.toList ++ c :: y.toList := by simp
    rw [hlist, lower_append_cons (isBreak_of_isDelimiter hc), List.filter_append, ← ihx]
    rcases hc with hblank | hparen
    · rw [queryWords_append_blank hblank, List.flatMap_append, ihy,
        List.filter_cons_of_neg (by rw [hblank]; decide)]
    · have hc : isBlank c = false := by rcases hparen with rfl | rfl <;> decide
      rw [queryWords_append_paren hparen, List.flatMap_append, List.flatMap_cons, ihy,
        List.filter_cons_of_pos (by rw [hc]; rfl), String.toList_ofList, List.singleton_append]

/-- The words of a query are parentheses and words in lowercase that hold no blank and no parenthesis.
Together they are the lowercase of the query, taken as a whole, without its blanks; with spaces between
them they are a query with the same words. A text without blanks and parentheses is one word; at a
blank the words of the two sides meet, and at a parenthesis they do so with the parenthesis between. -/
theorem queryWords_isNormalForm (x : String) :
    (∀ w ∈ queryWords x, w = "(" ∨ w = ")" ∨ IsPlainWord w ∧ lowerString w = w) ∧
    queryWords (" ".intercalate (queryWords x)) = queryWords x ∧
    (queryWords x).flatMap String.toList = (lower x.toList).filter (!isBlank ·) ∧
    (IsPlainWord x → queryWords x = [lowerString x]) ∧
    (∀ y, queryWords (x ++ " " ++ y) = queryWords x ++ queryWords y) ∧
    (∀ b y, isBlank b = true → queryWords (x ++ .ofList [b] ++ y) = queryWords x ++ queryWords y) ∧
    (∀ y, queryWords (x ++ "(" ++ y) = queryWords x ++ ["("] ++ queryWords y) ∧
    (∀ y, queryWords (x ++ ")" ++ y) = queryWords x ++ [")"] ++ queryWords y) := by
  refine ⟨form_of_mem_queryWords x, ?_, flatMap_toList_queryWords x, queryWords_of_isPlainWord,
    queryWords_append_space x, fun b y hb => queryWords_append_blank hb x y, fun y => ?_, fun y => ?_⟩
  · exact read_intercalate queryWords_empty queryWords_append_space
      fun w hw => queryWords_of_mem_queryWords hw
  · rw [List.append_assoc]
    exact queryWords_append_paren (.inl rfl : '(' = '(' ∨ '(' = ')') x y
  · rw [List.append_assoc]
    exact queryWords_append_paren (.inr rfl : ')' = '(' ∨ ')' = ')') x y

/-- A sigma takes its final form before a blank and before a parenthesis, as it does at the end. -/
theorem queryWords_isNormalForm_sigma :
    IsPlainWord "ΟΔΟΣ" ∧ queryWords "ΟΔΟΣ" = ["οδος"] ∧ isBlank '\u3000' = true ∧
    queryWords ("ΟΔΟΣ" ++ .ofList ['\u3000'] ++ "NOT(Σ") = ["οδος", "not", "(", "σ"] ∧
    queryWords ("ΟΔΟΣ" ++ "(" ++ "NOT(Σ") = ["οδος", "(", "not", "(", "σ"] ∧
    queryWords (" ".intercalate ["οδος"]) = ["οδος"] := by
  have hblank : "ΟΔΟΣ".toList.all (isBlank · == false) = true := by decide
  have hplain : IsPlainWord "ΟΔΟΣ" :=
    ⟨⟨by decide, fun c hc => beq_iff_eq.1 (List.all_eq_true.1 hblank c hc)⟩, by decide, by decide⟩
  have hright : queryWords "NOT(Σ" = ["not", "(", "σ"] := by decide +kernel
  obtain ⟨-, hagain, -, hword, -, hcut, hopening, -⟩ := queryWords_isNormalForm "ΟΔΟΣ"
  have hleft : queryWords "ΟΔΟΣ" = ["οδος"] := (hword hplain).trans (by decide +kernel)
  rw [hleft] at hagain
  refine ⟨hplain, hleft, by decide, ?_, ?_, hagain⟩
  · rw [hcut '\u3000' "NOT(Σ" (by decide), hleft, hright]
    rfl
  · rw [hopening "NOT(Σ", hleft, hright]
    rfl

end DocSearch.BoolQuery
