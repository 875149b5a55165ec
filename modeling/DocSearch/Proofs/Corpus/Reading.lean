/-
What a corpus can hold. Whatever files there are, a corpus has nothing but tokens and lemmas that
were read from texts: a token is a line, not empty and without a newline, and a lemma is a word.
-/
import DocSearch.Corpus.Basic
import DocSearch.Proofs.Text.Words

namespace DocSearch.Corpus

open Text

/-! ## Tokens and lemmas of a text -/

theorem mem_readTokens {s token : String} (h : token ∈ readTokens s) :
    token ≠ "" ∧ '\n' ∉ token.toList := by
  obtain ⟨cs, hcs, rfl⟩ := List.mem_map.1 h
  obtain ⟨hcs, hne⟩ := List.mem_filter.1 hcs
  obtain ⟨line, hline, rfl⟩ := List.mem_map.1 hcs
  rw [String.toList_ofList]
  refine ⟨fun he => ?_, fun hn => notMem_newline_of_mem_lines hline (mem_of_mem_trim hn)⟩
  rw [← String.toList_inj, String.toList_ofList] at he
  rw [he] at hne
  cases hne

theorem isWord_of_mem_readLemmas {s : String} {l : String × List String} (h : l ∈ readLemmas s) :
    ∀ w ∈ l.1 :: l.2, IsWord w.toList := by
  obtain ⟨line, -, hl⟩ := List.mem_filterMap.1 h
  unfold readLemma? at hl
  split at hl
  · rename_i lemma' tokens hwords
    cases hl
    intro w hw
    rw [← hwords] at hw
    obtain ⟨cs, hcs, rfl⟩ := List.mem_map.1 hw
    rw [String.toList_ofList]
    exact isWord_of_mem_words hcs
  · cases hl

/-! ## Every corpus -/

/-- What a document can have been read from. -/
structure FromTexts (d : CorpusDoc) : Prop where
  tokens : ∀ ts, d.tokens = some ts → ∃ s, ts = readTokens s
  lemmas : ∀ ls, d.lemmas = some ls → ∃ s, ls = readLemmas s

/-- Whether a corpus holds nothing that was not read from texts. -/
def OfTexts (corpus : Corpus) : Prop :=
  ∀ (doc : DocId) (d : CorpusDoc), corpus[doc]? = some d → FromTexts d

theorem OfTexts.docOf {corpus : Corpus} (h : OfTexts corpus) (doc : DocId) :
    FromTexts (corpus.docOf doc) := by
  unfold Corpus.docOf
  cases hd : corpus[doc]? with
  | none => exact ⟨nofun, nofun⟩
  | some d => exact h doc d hd

/-- One more text leaves every document with what was read from texts. -/
theorem OfTexts.addText {c : Corpus} (h : OfTexts c) (kind : FileKind) (added : DocId) (s : String) :
    OfTexts (c.addText kind added s) := by
  intro doc d hd
  have hold := h.docOf added
  cases kind with
  | tokens =>
    rw [Corpus.addText, Std.ExtTreeMap.getElem?_insert] at hd
    split at hd
    · cases hd
      exact ⟨fun _ ht => ⟨s, (Option.some.inj ht).symm⟩, hold.lemmas⟩
    · exact h doc d hd
  | lemmas =>
    rw [Corpus.addText, Std.ExtTreeMap.getElem?_insert] at hd
    split at hd
    · cases hd
      exact ⟨hold.tokens, fun _ hl => ⟨s, (Option.some.inj hl).symm⟩⟩
    · exact h doc d hd

theorem OfTexts.addFile {c c' : Corpus} (h : OfTexts c) {f : ListedFile} (hf : c.addFile f = .ok c') :
    OfTexts c' := by
  unfold Corpus.addFile at hf
  split at hf
  · cases hf; exact h
  · split at hf
    · cases hf; exact h.addText _ _ _
    · cases hf

theorem OfTexts.foldlM : ∀ {fs : List ListedFile} {c c' : Corpus}, OfTexts c →
    fs.foldlM Corpus.addFile c = .ok c' → OfTexts c'
  | [], _, _, h, hc => by cases hc; exact h
  | f :: fs, c, c', h, hc => by
    rw [List.foldlM_cons] at hc
    cases hf : c.addFile f with
    | error e => rw [hf] at hc; cases hc
    | ok c₁ =>
      rw [hf] at hc
      change fs.foldlM Corpus.addFile c₁ = .ok c' at hc
      exact (h.addFile hf).foldlM hc

/-- A corpus that was read holds nothing that was not read from texts. -/
theorem ofTexts_of_read {t : FileTree} {dir : Path} {c : Corpus} (h : Corpus.read t dir = .ok c) :
    OfTexts c := by
  have hempty : OfTexts ∅ := fun doc d hd => by rw [Std.ExtTreeMap.getElem?_empty] at hd; cases hd
  exact hempty.foldlM h

end DocSearch.Corpus
