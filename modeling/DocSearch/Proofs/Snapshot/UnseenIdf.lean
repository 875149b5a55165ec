/-
Frequencies of terms that were seen and of terms that were not, with exact logarithms. A record is
weighed by all documents with a tokens file, and a term that was not seen by those that weights were
written for, which are fewer where a tokens file is blank. So the latter is the larger one as long
as blank files are not too many, and always if there are none.
-/
import Mathlib.Analysis.Complex.ExponentialBounds
import DocSearch.Proofs.Corpus.Frequencies
import DocSearch.Proofs.Real
import DocSearch.Proofs.Snapshot.Reindex

namespace DocSearch

/-! ## The two frequencies -/

theorem log_div_lt_log_add_one_iff {n df total : Nat} (hn : 0 < n) (hdf : 0 < df) :
    Real.log (n / df) < Real.log (total + 1) + 1 ↔ (n : ℝ) < Real.exp 1 * (total + 1) * df := by
  have hn : (0 : ℝ) < n := Nat.cast_pos.2 hn
  have hdf : (0 : ℝ) < df := Nat.cast_pos.2 hdf
  have htotal : (0 : ℝ) < total + 1 := Nat.cast_add_one_pos total
  have hsum : Real.log (total + 1) + 1 = Real.log (Real.exp 1 * (total + 1)) := by
    rw [Real.log_mul (Real.exp_ne_zero 1) htotal.ne', Real.log_exp, add_comm]
  rw [hsum, Real.log_lt_log_iff (div_pos hn hdf) (mul_pos (Real.exp_pos 1) htotal), div_lt_iff₀ hdf]

theorem Model.unseenIdf_eq (m : Model ℝ) : m.unseenIdf = Real.log (m.totalDocs + 1) + 1 := by
  unfold unseenIdf
  change Real.log ((m.totalDocs + 1 : Nat) : ℝ) + ((1 : Nat) : ℝ) = _
  rw [Nat.cast_succ, Nat.cast_one]

namespace Corpus

variable {c : Corpus} {w : DocWeights ℝ} {space : Space} {rs : List (WeightRecord ℝ)}
  {r : WeightRecord ℝ}

section Records

variable (hw : w ∈ (c.weights : List (DocWeights ℝ))) (hrs : recordsIn w space = some rs) (hr : r ∈ rs)
include hw hrs hr

theorem idf_eq_log : r.idf = Real.log (c.tokenizedDocs / c.docFrequency space r.term) :=
  (idf_of_mem_recordsIn hw hrs hr).2

variable {m : Model ℝ} (hm : m.totalDocs = c.weightedDocs)
include hm

/-- A model with the documents that have weights has a larger frequency for terms that were not seen
exactly if the documents with a tokens file are few enough. -/
theorem idf_lt_unseenIdf_iff : r.idf < m.unseenIdf ↔
    (c.tokenizedDocs : ℝ) < Real.exp 1 * (c.weightedDocs + 1) * c.docFrequency space r.term := by
  rw [idf_eq_log hw hrs hr, m.unseenIdf_eq, hm,
    log_div_lt_log_add_one_iff (tokenizedDocs_pos hw) (idf_of_mem_recordsIn hw hrs hr).1]

/-- Without blank files they are. -/
theorem idf_lt_unseenIdf_of_forall (h : ∀ d ∈ c.values, d.tokens ≠ some []) : r.idf < m.unseenIdf := by
  rw [idf_lt_unseenIdf_iff hw hrs hr hm, tokenizedDocs_eq_weightedDocs h]
  have hdf : (1 : ℝ) ≤ c.docFrequency space r.term :=
    Nat.one_le_cast.2 (idf_of_mem_recordsIn hw hrs hr).1
  have hexp : (1 : ℝ) ≤ Real.exp 1 := Real.one_le_exp zero_le_one
  calc (c.weightedDocs : ℝ) < 1 * (c.weightedDocs + 1) * 1 := by linarith
    _ ≤ Real.exp 1 * (c.weightedDocs + 1) * c.docFrequency space r.term := by gcongr

end Records

end Corpus

/-! ## The command and the loader -/

namespace Commands

open Snapshot

/-- When the weights of a corpus with a token have been written to a fresh directory, a model is
loaded with the documents that have a token. -/
theorem exists_loadModel_writeWeights_fresh {now : String} {c : Corpus} {corpus output : Path}
    {t t' : FileTree} (hread : Corpus.read t corpus = .ok c) (htoken : ∃ doc, c.Tokenized doc)
    (hfresh : t.Fresh output) (hs : (writeWeights now corpus output).Yields t () t') :
    ∃ m, loadModel ⟨output⟩ t' = .ok m ∧ m.totalDocs = c.weightedDocs := by
  have hnone : ∀ space doc, ¬ HasWeights ⟨output⟩ t space doc := fun _ _ =>
    not_hasWeights_of_fresh hfresh
  have htexts : WeightsAreTexts ⟨output⟩ t := fun space name doc n hname hn =>
    absurd ⟨name, n, hname, hn⟩ (hnone space doc)
  obtain ⟨m, hm⟩ := (exists_loadModel_writeWeights_iff hread hs).2
    ⟨hasWeightsDir_writeWeights hread hs htoken,
      weightsAreTexts_writeWeights hread hs htoken hfresh.way htexts⟩
  refine ⟨m, hm, ?_⟩
  obtain ⟨-, htotal⟩ := totalDocs_eq_length_iff hread hs hm
  rw [htotal.2 fun doc hdoc => absurd hdoc (hnone _ doc), weightsOf, Corpus.length_weights]

/-- When the weights of a corpus with a token have been written to a fresh directory, a model is
loaded with as many documents as have a token. A record of the corpus, in either space, has the
logarithm of the documents with a tokens file over those with its term. In exact numbers this is less
than what a model of as many documents has for terms that were not seen exactly if the documents with
a tokens file are fewer than e times those with its term times one more than those with a token, and
it is less if no tokens file is blank. -/
theorem idf_lt_unseenIdf_writeWeights {now : String} {c : Corpus} {corpus output : Path}
    {t t' : FileTree} (hread : Corpus.read t corpus = .ok c) (htoken : ∃ doc, c.Tokenized doc)
    (hfresh : t.Fresh output) (hs : (writeWeights now corpus output).Yields t () t') :
    ∃ m, loadModel ⟨output⟩ t' = .ok m ∧ m.totalDocs = c.weightedDocs ∧
      ∀ w ∈ (c.weights : List (Corpus.DocWeights ℝ)), ∀ space rs, Corpus.recordsIn w space = some rs →
        ∀ r ∈ rs, r.idf = Real.log (c.tokenizedDocs / c.docFrequency space r.term) ∧
          ∀ ideal : Model ℝ, ideal.totalDocs = m.totalDocs →
            (r.idf < ideal.unseenIdf ↔ (c.tokenizedDocs : ℝ) <
              Real.exp 1 * (c.weightedDocs + 1) * c.docFrequency space r.term) ∧
            ((∀ d ∈ c.values, d.tokens ≠ some []) → r.idf < ideal.unseenIdf) := by
  obtain ⟨m, hm, htotal⟩ := exists_loadModel_writeWeights_fresh hread htoken hfresh hs
  refine ⟨m, hm, htotal, fun w hw space rs hrs r hr => ⟨Corpus.idf_eq_log hw hrs hr, ?_⟩⟩
  intro ideal hideal
  rw [htotal] at hideal
  exact ⟨Corpus.idf_lt_unseenIdf_iff hw hrs hr hideal,
    Corpus.idf_lt_unseenIdf_of_forall hw hrs hr hideal⟩

theorem idf_lt_unseenIdf_writeWeights_cat : ∃ c t' m,
    Corpus.read (tokenTree "cat\n") ⟨"corpus"⟩ = .ok c ∧ (∃ doc, c.Tokenized doc) ∧
      (tokenTree "cat\n").Fresh ⟨"out"⟩ ∧
      (writeWeights "" ⟨"corpus"⟩ ⟨"out"⟩).Yields (tokenTree "cat\n") () t' ∧
      loadModel ⟨⟨"out"⟩⟩ t' = .ok m ∧
      ∃ w ∈ (c.weights : List (Corpus.DocWeights ℝ)), ∃ r ∈ w.tokens,
        ∀ ideal : Model ℝ, ideal.totalDocs = m.totalDocs → r.idf < ideal.unseenIdf := by
  obtain ⟨c, hread, hc⟩ := exists_eq_ok_of_any (r := Corpus.read (tokenTree "cat\n") ⟨"corpus"⟩)
    (P := fun c => decide ((c.docOf 1).tokens.getD [] ≠ []) &&
      decide (∀ d ∈ c.values, d.tokens ≠ some [])) (by decide +kernel)
  rw [Bool.and_eq_true, decide_eq_true_eq, decide_eq_true_eq] at hc
  obtain ⟨htoken, hblank⟩ := hc
  have hyields : (writeWeights "" ⟨"corpus"⟩ ⟨"out"⟩).Yields (tokenTree "cat\n") () _ :=
    Change.yields_of_isOk (by decide +kernel)
  obtain ⟨m, hm, -, hrecords⟩ :=
    idf_lt_unseenIdf_writeWeights hread ⟨1, htoken⟩ (fresh_tokenTree "cat\n") hyields
  obtain ⟨w, hw, r, hr⟩ := Corpus.exists_mem_tokens_of_tokenized (α := ℝ) htoken
  refine ⟨c, _, m, hread, ⟨1, htoken⟩, fresh_tokenTree "cat\n", hyields, hm, w, hw, r, hr, ?_⟩
  intro ideal hideal
  exact ((hrecords w hw .tokens w.tokens rfl r hr).2 ideal hideal).2 hblank

/-- A tree with the token `cat` of the document 1, and with blank tokens files of five documents. -/
def blankTree : FileTree :=
  (tokenTree "cat\n").putFiles
    (["2", "3", "4", "5", "6"].map fun n => (["corpus", "tokens" ++ n ++ ".txt"], "\n".toUTF8))

theorem fresh_blankTree : blankTree.Fresh ⟨"out"⟩ := by
  refine (fresh_tokenTree "cat\n").putFiles (by decide) fun f hf => ?_
  obtain ⟨n, -, rfl⟩ := List.mem_map.1 hf
  rw [intended_out rfl, List.cons_prefix_cons]
  exact fun h => absurd h.1 (by decide)

/-- The frequency of `cat` is ln 6, which is more than ln 2 + 1. -/
theorem not_idf_lt_unseenIdf_writeWeights_blank : ∃ c t' m,
    Corpus.read blankTree ⟨"corpus"⟩ = .ok c ∧ (∃ doc, c.Tokenized doc) ∧ blankTree.Fresh ⟨"out"⟩ ∧
      (writeWeights "" ⟨"corpus"⟩ ⟨"out"⟩).Yields blankTree () t' ∧ loadModel ⟨⟨"out"⟩⟩ t' = .ok m ∧
      ∃ w ∈ (c.weights : List (Corpus.DocWeights ℝ)), ∃ r ∈ w.tokens,
        ∀ ideal : Model ℝ, ideal.totalDocs = m.totalDocs → ¬ r.idf < ideal.unseenIdf := by
  obtain ⟨c, hread, hc⟩ := exists_eq_ok_of_any (r := Corpus.read blankTree ⟨"corpus"⟩)
    (P := fun c => decide ((c.docOf 1).tokens.getD [] ≠ []) && decide (c.tokenizedDocs = 6) &&
      decide (c.weightedDocs = 1)) (by decide +kernel)
  simp only [Bool.and_eq_true, decide_eq_true_eq] at hc
  obtain ⟨⟨htoken, hsix⟩, hone⟩ := hc
  have hyields : (writeWeights "" ⟨"corpus"⟩ ⟨"out"⟩).Yields blankTree () _ :=
    Change.yields_of_isOk (by decide +kernel)
  obtain ⟨m, hm, htotal⟩ :=
    exists_loadModel_writeWeights_fresh hread ⟨1, htoken⟩ fresh_blankTree hyields
  obtain ⟨w, hw, r, hr⟩ := Corpus.exists_mem_tokens_of_tokenized (α := ℝ) htoken
  refine ⟨c, _, m, hread, ⟨1, htoken⟩, fresh_blankTree, hyields, hm, w, hw, r, hr, ?_⟩
  intro ideal hideal
  -- six documents with a tokens file are not fewer than e times two
  have htokens : Corpus.recordsIn w .tokens = some w.tokens := rfl
  have hdf : c.docFrequency .tokens r.term = 1 :=
    le_antisymm (hone ▸ c.docFrequency_tokens_le r.term) (Corpus.idf_of_mem_recordsIn hw htokens hr).1
  rw [Corpus.idf_lt_unseenIdf_iff hw htokens hr (hideal.trans htotal), hsix, hone, hdf]
  push_cast
  linarith [Real.exp_one_lt_three]

end Commands

end DocSearch
