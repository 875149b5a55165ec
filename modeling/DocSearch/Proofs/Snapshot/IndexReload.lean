/-
Building an index and loading it. The index of a corpus is written as lines with a colon behind the
term, and a line with a second colon is not read back: all terms with a colon are lost, with every
document that no other term lists, and nothing else is.
-/
import DocSearch.Commands
import DocSearch.Proofs.Corpus.Index
import DocSearch.Proofs.Snapshot.Change

namespace DocSearch.Commands

open Postings Text

/-! ## The index of a corpus, written and read back -/

section Reload

variable {c : Corpus} (h : Corpus.OfTexts c)
include h

theorem newline_invertedIndex : ∀ r ∈ c.invertedIndex.toList, '\n' ∉ r.1.toList := fun r hr hn => by
  have hblank := (Corpus.isWord_of_find?_invertedIndex h (mem_toList.1 hr)).2 '\n' hn
  cases hblank

theorem find?_reload_invertedIndex (w : String) : (ofText c.invertedIndex.text).find? w =
    if ':' ∈ w.toList then none else c.invertedIndex.find? w := by
  ext ds
  rw [find?_ofText_text (newline_invertedIndex h)]
  split
  · rename_i hcolon
    constructor
    · rintro ⟨-, -, hno, -⟩; exact absurd hcolon hno
    · intro hf; cases hf
  · rename_i hcolon
    refine and_iff_left_of_imp fun hf => ⟨?_, hcolon, ?_⟩
    · rintro rfl
      exact (Corpus.isWord_of_find?_invertedIndex h hf).1 String.toList_empty
    · exact fun he => Corpus.find?_invertedIndex_ne_empty c w (he ▸ hf)

/-- Every document survives in the lists of its other terms, so what has been seen is the same once
the terms are. -/
theorem reload_invertedIndex_eq_iff : ofText c.invertedIndex.text = c.invertedIndex ↔
    ∀ l ∈ c.allLemmaLines, ':' ∉ l.2.1.toList := by
  constructor
  · intro heq l hl hcolon
    obtain ⟨ds, hds⟩ := Corpus.find?_invertedIndex_of_mem hl
    have hlost := find?_reload_invertedIndex h (lowerString l.2.1)
    rw [lowerString, String.toList_ofList, if_pos (mem_colon_lower.2 hcolon), ← lowerString, heq,
      hds] at hlost
    cases hlost
  · intro hno
    have hfind : ∀ w, (ofText c.invertedIndex.text).find? w = c.invertedIndex.find? w := by
      intro w
      rw [find?_reload_invertedIndex h]
      split
      · rename_i hcolon
        -- a term with a colon would come from a lemma with a colon
        refine (Option.eq_none_iff_forall_ne_some.2 fun ds hf => ?_).symm
        obtain ⟨l, hl, rfl⟩ := Corpus.exists_of_find?_invertedIndex hf
        rw [lowerString, String.toList_ofList] at hcolon
        exact hno l hl (mem_colon_lower.1 hcolon)
      · rfl
    refine ext_find? hfind fun d => ?_
    rw [mem_seen_ofText_text_iff_lists (newline_invertedIndex h), Corpus.mem_seen_invertedIndex]
    simp only [Postings.Lists, hfind]

end Reload

/-! ## The command and the loader -/

/-- When the index of a corpus has been built, an index is loaded: without the terms that hold a
colon, with the same documents for every other term, and with what they list as the documents seen.
It is the index that was built exactly if no lemma of the corpus holds a colon. -/
theorem loadIndex_buildIndex {corpus output : Path} {t t' : FileTree}
    (h : (buildIndex corpus output).Yields t () t') :
    ∃ c p, Corpus.read t corpus = .ok c ∧ Snapshot.loadIndex ⟨output⟩ t' = .ok p ∧
      (∀ w, p.find? w = if ':' ∈ w.toList then none else c.invertedIndex.find? w) ∧
      (∀ d, d ∈ p.seen ↔ p.Lists d) ∧
      (p = c.invertedIndex ↔ ∀ l ∈ c.allLemmaLines, ':' ∉ l.2.1.toList) := by
  obtain ⟨c, s, hread, hsave⟩ := Change.yields_bind.1 h
  obtain ⟨hread, rfl⟩ := Change.yields_query.1 hread
  have hc := Corpus.ofTexts_of_read hread
  have hload := Snapshot.loadIndex_saveIndex (Change.yields_mapError.1 hsave)
  exact ⟨c, _, hread, hload, find?_reload_invertedIndex hc,
    fun d => mem_seen_ofText_text_iff_lists (newline_invertedIndex hc), reload_invertedIndex_eq_iff hc⟩

/-- A tree with a file of lemmas, of the document 1. -/
def lemmaTree (text : String) : FileTree :=
  (FileTree.empty.putDirectory ["corpus"]).putFile ["corpus", "lemmas1.txt"] text.toUTF8

theorem loadIndex_buildIndex_cat : ∃ t',
    (buildIndex ⟨"corpus"⟩ ⟨"out"⟩).Yields (lemmaTree "Cat cat cats\n") () t' ∧
      ∃ c p, Corpus.read (lemmaTree "Cat cat cats\n") ⟨"corpus"⟩ = .ok c ∧
        Snapshot.loadIndex ⟨⟨"out"⟩⟩ t' = .ok p ∧
        (∀ w, p.find? w = if ':' ∈ w.toList then none else c.invertedIndex.find? w) ∧
        (∀ d, d ∈ p.seen ↔ p.Lists d) ∧
        (p = c.invertedIndex ↔ ∀ l ∈ c.allLemmaLines, ':' ∉ l.2.1.toList) := by
  have h : (buildIndex ⟨"corpus"⟩ ⟨"out"⟩).Yields (lemmaTree "Cat cat cats\n") () _ :=
    Change.yields_of_isOk (by decide +kernel)
  exact ⟨_, h, loadIndex_buildIndex h⟩

/-- The lemma `a:b` is in the index of its corpus and not in the index that is loaded. -/
theorem loadIndex_buildIndex_colon :
    (Corpus.read (lemmaTree "a:b x\n") ⟨"corpus"⟩).toOption.map
        (fun c => c.invertedIndex.toList.map fun r => (r.1, r.2.toList)) = some [("a:b", [1])] ∧
      (buildIndex ⟨"corpus"⟩ ⟨"out"⟩ (lemmaTree "a:b x\n")).1.isOk ∧
      (Snapshot.loadIndex ⟨⟨"out"⟩⟩ (buildIndex ⟨"corpus"⟩ ⟨"out"⟩ (lemmaTree "a:b x\n")).2).toOption.map
        (fun p => p.toList.map fun r => (r.1, r.2.toList)) = some [] := by
  refine ⟨?_, ?_, ?_⟩ <;> decide +kernel

end DocSearch.Commands
