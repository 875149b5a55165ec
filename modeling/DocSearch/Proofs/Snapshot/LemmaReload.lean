/-
Saving the lemma table of a corpus and loading it. Nothing is lost: the table that is loaded is the
one that was made, with the lemmas of every token in order, all of them terms of the inverted index.
-/
import DocSearch.Proofs.Corpus.Lemmas
import DocSearch.Proofs.Snapshot.Reindex

namespace DocSearch

namespace Snapshot

/-- A lemma table is loaded from the text that saving it has left. -/
theorem loadLemmaTable_of_saveLemmaTable {s : Snapshot} {table : LemmaTable} {t t' : FileTree}
    {u : Unit} (h : (s.saveLemmaTable table).Yields t u t') :
    s.loadLemmaTable t' = .ok (LemmaTable.ofText table.text) := by
  unfold loadLemmaTable
  rw [FileTree.readText_saveText h]
  rfl

/-- The lemma table of a corpus that was read is loaded as it was saved, wherever that is. Its tokens
are the lowercased ones of the lemma lines; a token has the lowercased lemmas of its lines, strictly
ascending, and documents are listed for each of them. -/
theorem loadLemmaTable_saveLemmaTable {source : FileTree} {corpus : Path} {c : Corpus}
    (hread : Corpus.read source corpus = .ok c) :
    (∀ (s : Snapshot) (t t' : FileTree), (s.saveLemmaTable c.lemmaTable).Yields t () t' →
      s.loadLemmaTable t' = .ok c.lemmaTable) ∧
    (∀ token, (∃ ls, c.lemmaTable[token]? = some ls) ↔ ∃ l, c.HasLemma token l) ∧
    ∀ token ls, c.lemmaTable[token]? = some ls → ls.Pairwise (· < ·) ∧
      (∀ l, l ∈ ls ↔ c.HasLemma token l) ∧ ∀ l ∈ ls, ∃ doc, doc ∈ c.invertedIndex.docs l := by
  refine ⟨fun s t t' hs => ?_, fun token => Corpus.exists_lemmaTable_iff, fun token ls h => ?_⟩
  · rw [loadLemmaTable_of_saveLemmaTable hs,
      Corpus.ofText_text_lemmaTable (Corpus.ofTexts_of_read hread)]
  · have hmem : ∀ l, l ∈ ls ↔ c.HasLemma token l := fun l => Corpus.mem_lemmaTable h
    exact ⟨Corpus.pairwise_lemmaTable h, hmem, fun l hl => ((hmem l).1 hl).exists_mem_docs⟩

/-- A tree with lemma files of two documents, which write the token `cats` in several ways. -/
def catsTree : FileTree :=
  ((FileTree.empty.putDirectory ["corpus"]).putFile ["corpus", "lemmas1.txt"]
    "Feline cats\nCAT Cats cats\n".toUTF8).putFile ["corpus", "lemmas2.txt"] "cat CATS\n".toUTF8

/-- The lemmas of `cats` come from both documents. -/
theorem loadLemmaTable_saveLemmaTable_cats : ∃ c t',
    Corpus.read catsTree ⟨"corpus"⟩ = .ok c ∧
      (saveLemmaTable ⟨⟨"out"⟩⟩ c.lemmaTable).Yields catsTree () t' ∧
      loadLemmaTable ⟨⟨"out"⟩⟩ t' = .ok c.lemmaTable ∧
      c.lemmaTable["cats"]? = some ["cat", "feline"] ∧
      (∃ doc, doc ∈ c.invertedIndex.docs "feline") := by
  obtain ⟨c, hread, hc⟩ := exists_eq_ok_of_any (r := Corpus.read catsTree ⟨"corpus"⟩)
    (P := fun c => decide (c.lemmaTable["cats"]? = some ["cat", "feline"]) &&
      (saveLemmaTable ⟨⟨"out"⟩⟩ c.lemmaTable catsTree).1.isOk) (by decide +kernel)
  rw [Bool.and_eq_true, decide_eq_true_eq] at hc
  obtain ⟨hcats, hsave⟩ := hc
  obtain ⟨hload, -, htable⟩ := loadLemmaTable_saveLemmaTable hread
  obtain ⟨-, -, hdocs⟩ := htable "cats" _ hcats
  exact ⟨c, _, hread, Change.yields_of_isOk hsave, hload _ _ _ (Change.yields_of_isOk hsave), hcats,
    hdocs "feline" (by decide)⟩

end Snapshot

/-- The model that is loaded after writing the weights of a corpus has the lemma table of the corpus,
whatever was there before. -/
theorem Commands.table_writeWeights {now : String} {c : Corpus} {corpus output : Path}
    {t t' : FileTree} (hread : Corpus.read t corpus = .ok c)
    (hs : (writeWeights now corpus output).Yields t () t') {m : Model Binary64}
    (hm : Snapshot.loadModel ⟨output⟩ t' = .ok m) : m.table = c.lemmaTable := by
  obtain ⟨hload, -, -⟩ := Snapshot.loadModel_eq_ok_iff.1 hm
  rw [loadLemmaTable_writeWeights hread hs,
    Corpus.ofText_text_lemmaTable (Corpus.ofTexts_of_read hread)] at hload
  exact (Except.ok.inj hload).symm

end DocSearch
