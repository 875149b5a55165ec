/-
Terms of the index of a corpus as queries. A term that is a single word of a query answers with the
documents that list it, as long as the words of queries leave it alone: parentheses and operators are
no words, and a term that begins with `not` asks for all that does not list the rest of it. In a
corpus that was read, every term without parentheses is a single word, since it is in lowercase
already.
-/
import DocSearch.Proofs.BoolQuery.Tokens
import DocSearch.Proofs.BoolQuery.Universe
import DocSearch.Proofs.Corpus.Lemmas

namespace DocSearch

open Text

namespace Corpus

variable {c : Corpus} {d : DocId} {w : String}

/-- Whether the lemma file of a document lists a lemma, in any case. -/
def ListsLemma (c : Corpus) (d : DocId) (w : String) : Prop :=
  ∃ line ∈ lemmaLines (c.docOf d), lowerString line.1 = w

theorem mem_docs_iff_listsLemma : d ∈ c.invertedIndex.docs w ↔ c.ListsLemma d w := by
  rw [mem_docs_invertedIndex]
  constructor
  · rintro ⟨⟨doc, line⟩, hline, hw, rfl⟩
    exact ⟨line, mem_allLemmaLines.1 hline, hw⟩
  · rintro ⟨line, hline, hw⟩
    exact ⟨(d, line), mem_allLemmaLines.2 hline, hw, rfl⟩

theorem mem_iff_listsLemma_of_find? {ds : DocSet} (h : c.invertedIndex.find? w = some ds) :
    d ∈ ds ↔ c.ListsLemma d w := by
  rw [← mem_docs_iff_listsLemma, Postings.docs, h, Option.getD_some]

theorem mem_seen_iff_listsLemma : d ∈ c.invertedIndex.seen ↔ ∃ w, c.ListsLemma d w := by
  rw [mem_seen_invertedIndex]
  constructor
  · rintro ⟨w, ds, hf, hd⟩
    exact ⟨w, mem_docs_iff_listsLemma.1 (Postings.mem_docs.2 ⟨ds, hf, hd⟩)⟩
  · rintro ⟨w, hw⟩
    obtain ⟨ds, hf, hd⟩ := Postings.mem_docs.1 (mem_docs_iff_listsLemma.2 hw)
    exact ⟨w, ds, hf, hd⟩

end Corpus

namespace BoolQuery

variable {c : Corpus} {p : Postings} {t : String} {ds : DocSet}

/-! ## Queries of a single word -/

theorem tokens_of_queryWords (hq : queryWords t = [t]) (hopen : t ≠ "(") (hclose : t ≠ ")")
    (hand : t ≠ "and") (hor : t ≠ "or") (hnot : t ≠ "not") : tokens t = [.word t] := by
  rw [tokens, hq, List.map_singleton, Token.ofWord, if_neg hopen, if_neg hclose, if_neg hand,
    if_neg hor, if_neg hnot]

/-- A parenthesis alone is never closed or never opened. -/
theorem evaluate_paren (p : Postings) (ht : t = "(" ∨ t = ")") :
    evaluate p t = .error .unbalancedParenthesis := by
  have htokens : tokens "(" = [.opening] ∧ tokens ")" = [.closing] := by decide +kernel
  unfold evaluate
  rcases ht with rfl | rfl
  · rw [htokens.1]; rfl
  · rw [htokens.2]; rfl

theorem resolve_of_not_glued (p : Postings) (h : ∀ u, u ≠ "" → t ≠ "not" ++ u) :
    resolve p t = p.docs t := by
  unfold resolve
  cases hn : negated? t with
  | none => rfl
  | some u =>
    obtain ⟨hne, ht⟩ := (negated?_eq_some_iff t u).1 hn
    exact absurd ht (h u hne)

theorem evaluate_of_not_glued (hf : p.find? t = some ds) (hq : queryWords t = [t]) (hopen : t ≠ "(")
    (hclose : t ≠ ")") (hand : t ≠ "and") (hor : t ≠ "or") (hnot : t ≠ "not")
    (hglued : ∀ u, u ≠ "" → t ≠ "not" ++ u) : evaluate p t = .ok ds := by
  rw [evaluate_word (tokens_of_queryWords hq hopen hclose hand hor hnot), resolve_of_not_glued p hglued,
    Postings.docs, hf, Option.getD_some]

/-! ## Terms of an index -/

theorem queryWords_of_term (hc : Corpus.OfTexts c) (hf : c.invertedIndex.find? t = some ds)
    (hopen : '(' ∉ t.toList) (hclose : ')' ∉ t.toList) : queryWords t = [t] := by
  rw [queryWords_of_isWord (Corpus.isWord_of_find?_invertedIndex hc hf) hopen hclose]
  obtain ⟨l, -, rfl⟩ := Corpus.exists_of_find?_invertedIndex hf
  rw [lowerString, lowerString, String.toList_ofList, lower_lower]

/-- In a corpus that was read, every term answers with the documents whose lemma file lists it, if it
holds no parenthesis, is no operator and does not begin with `not`. -/
theorem evaluate_plain_term (hc : Corpus.OfTexts c) (hf : c.invertedIndex.find? t = some ds)
    (hopen : '(' ∉ t.toList) (hclose : ')' ∉ t.toList) (hand : t ≠ "and") (hor : t ≠ "or")
    (hglued : ∀ u, t ≠ "not" ++ u) :
    evaluate c.invertedIndex t = .ok ds ∧ ∀ d, d ∈ ds ↔ c.ListsLemma d t := by
  refine ⟨evaluate_of_not_glued hf (queryWords_of_term hc hf hopen hclose) ?_ ?_ hand hor
    (hglued "") fun u _ => hglued u, fun d => Corpus.mem_iff_listsLemma_of_find? hf⟩
  · rintro rfl; exact hopen (by decide)
  · rintro rfl; exact hclose (by decide)

/-- A term of the index that is a single word of a query and no operator. As long as it is no
parenthesis and has no glued `not`, it answers with its documents, which are those whose lemma file
lists it. With a glued `not` it answers instead with the documents whose lemma file lists something,
but not the rest of the term; these are its documents exactly if every such file lists one of the two
and not the other. A parenthesis has no answer. -/
theorem evaluate_term (hf : c.invertedIndex.find? t = some ds) (hq : queryWords t = [t])
    (hand : t ≠ "and") (hor : t ≠ "or") (hnot : t ≠ "not") :
    (∀ d, d ∈ ds ↔ c.ListsLemma d t) ∧
    (t ≠ "(" → t ≠ ")" → (∀ u, u ≠ "" → t ≠ "not" ++ u) → evaluate c.invertedIndex t = .ok ds) ∧
    (∀ u, u ≠ "" → t = "not" ++ u → ∃ s, evaluate c.invertedIndex t = .ok s ∧
      (∀ d, d ∈ s ↔ (∃ w, c.ListsLemma d w) ∧ ¬ c.ListsLemma d u) ∧
      (s = ds ↔ ∀ d, (∃ w, c.ListsLemma d w) → (c.ListsLemma d t ↔ ¬ c.ListsLemma d u))) ∧
    (t = "(" ∨ t = ")" → evaluate c.invertedIndex t = .error .unbalancedParenthesis) := by
  have hmem : ∀ d, d ∈ ds ↔ c.ListsLemma d t := fun d => Corpus.mem_iff_listsLemma_of_find? hf
  refine ⟨hmem, fun hopen hclose => evaluate_of_not_glued hf hq hopen hclose hand hor hnot,
    fun u hu ht => ?_, evaluate_paren _⟩
  · have hneg := (negated?_eq_some_iff t u).2 ⟨hu, ht⟩
    have hopen : t ≠ "(" := fun he => by rw [he] at hneg; cases hneg
    have hclose : t ≠ ")" := fun he => by rw [he] at hneg; cases hneg
    have hs : ∀ d, d ∈ resolve c.invertedIndex t ↔ (∃ w, c.ListsLemma d w) ∧ ¬ c.ListsLemma d u := by
      intro d
      rw [ht, resolve_not hu, Std.ExtTreeSet.mem_diff_iff, Corpus.mem_seen_iff_listsLemma,
        Corpus.mem_docs_iff_listsLemma]
    refine ⟨_, evaluate_word (tokens_of_queryWords hq hopen hclose hand hor hnot) _, hs, ?_, ?_⟩
    · intro heq d hd
      rw [← hmem, ← heq, hs]
      exact and_iff_right hd
    · intro hone
      refine Std.ExtTreeSet.ext_mem fun d => ?_
      rw [hs, hmem]
      constructor
      · rintro ⟨hd, hnu⟩; exact (hone d hd).2 hnu
      · intro hd; exact ⟨⟨t, hd⟩, (hone d ⟨t, hd⟩).1 hd⟩

/-- Two documents list `notable`, the first of them `Able` as well. -/
def notableCorpus : Corpus :=
  ((∅ : Corpus).addText .lemmas 1 "Able able\nnotable notables\n").addText .lemmas 2 "notable notable\n"

theorem evaluate_term_notable :
    (queryWords "able" = ["able"] ∧ ∃ ds, notableCorpus.invertedIndex.find? "able" = some ds ∧
      evaluate notableCorpus.invertedIndex "able" = .ok ds ∧
      ∀ d, d ∈ ds ↔ notableCorpus.ListsLemma d "able") ∧
    queryWords "notable" = ["notable"] ∧
    ∃ ds, notableCorpus.invertedIndex.find? "notable" = some ds ∧
      (∀ d, d ∈ ds ↔ notableCorpus.ListsLemma d "notable") ∧
      ∃ s, evaluate notableCorpus.invertedIndex "notable" = .ok s ∧
        ∀ d, d ∈ s ↔ (∃ w, notableCorpus.ListsLemma d w) ∧ ¬ notableCorpus.ListsLemma d "able" := by
  have hable : queryWords "able" = ["able"] := by decide +kernel
  have hnotable : queryWords "notable" = ["notable"] := by decide +kernel
  obtain ⟨as, has⟩ : ∃ ds, notableCorpus.invertedIndex.find? "able" = some ds :=
    Option.isSome_iff_exists.1 (by decide +kernel)
  obtain ⟨ns, hns⟩ : ∃ ds, notableCorpus.invertedIndex.find? "notable" = some ds :=
    Option.isSome_iff_exists.1 (by decide +kernel)
  have hplain : ∀ u, u ≠ "" → "able" ≠ "not" ++ u := fun u hu he => by
    have hneg := (negated?_eq_some_iff "able" u).2 ⟨hu, he⟩
    cases hneg
  obtain ⟨hmem, hanswer, -, -⟩ := evaluate_term has hable (by decide) (by decide) (by decide)
  obtain ⟨hmem', -, hglued, -⟩ := evaluate_term hns hnotable (by decide) (by decide) (by decide)
  obtain ⟨s, hs, hd, -⟩ := hglued "able" (by decide) (by decide)
  exact ⟨⟨hable, as, has, hanswer (by decide) (by decide) hplain, hmem⟩, hnotable, ns, hns, hmem', s, hs, hd⟩

/-- Two documents list the term `notable`, but the query asks for what does not list `able`. -/
theorem evaluate_notable :
    queryWords "notable" = ["notable"] ∧
    (notableCorpus.invertedIndex.find? "notable").map (·.toList) = some [1, 2] ∧
    (evaluate notableCorpus.invertedIndex "notable").toOption.map (·.toList) = some [2] := by
  decide +kernel

end BoolQuery

end DocSearch
