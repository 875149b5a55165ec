/-
Commands that fail over their inputs. A command reads all that it needs before it writes anything,
so an input that cannot be read makes it fail with the tree as it was; and where every input can be
read, what fails is the writing of an output. So a bad input never does damage to a snapshot.
-/
import DocSearch.Proofs.Corpus.Listings
import DocSearch.Proofs.Snapshot.LinkRun

namespace DocSearch

/-! ## Reading -/

namespace Corpus

/-- Reading a corpus fails over a file that is not a text. -/
theorem exists_of_read_eq_error {t : FileTree} {dir : Path} {e : Failure}
    (h : Corpus.read t dir = .error e) :
    ∃ f ∈ t.filesAt dir, Unreadable f ∧ e = readingFailure f := by
  by_cases hbad : ∃ f ∈ t.filesAt dir, Unreadable f
  · obtain ⟨f, hmem, hf, herr⟩ := exists_ofFiles_eq_error hbad
    cases h.symm.trans herr
    exact ⟨f, hmem, hf, rfl⟩
  · cases h.symm.trans (ofFiles_of_readable fun f hmem hf => hbad ⟨f, hmem, hf⟩)

end Corpus

/-- A file that cannot be read as a text fails under its own path. -/
theorem FileTree.exists_of_readText_eq_error {t : FileTree} {p : Path} {e : LoadError}
    (h : t.readText p = .error e) : ∃ cause, e = .file p cause := by
  unfold FileTree.readText at h
  cases hread : t.read p with
  | error cause =>
    rw [hread] at h
    cases h
    exact ⟨cause, rfl⟩
  | ok bytes =>
    have hbytes : (Except.ok bytes).mapError (LoadError.file p) = .ok bytes := rfl
    rw [hread, hbytes] at h
    simp only [bind, Except.bind] at h
    cases hdecode : Text.decode? bytes with
    | none =>
      rw [hdecode] at h
      cases h
      exact ⟨_, rfl⟩
    | some s =>
      rw [hdecode] at h
      cases h

theorem FileTree.loadDocuments_eq_error_iff {t : FileTree} {p : Path} {e : LoadError} :
    t.loadDocuments p = .error e ↔ t.readText p = .error e := by
  unfold loadDocuments
  cases t.readText p <;> simp [Except.map]

/-- A change that begins with looking at the tree fails there, or after it. -/
theorem Change.fails_query_bind {ε β γ : Type} {look : FileTree → Except ε β} {f : β → Change ε γ}
    {t t' : FileTree} {e : ε} : (query look >>= f).Fails t e t' ↔
      look t = .error e ∧ t' = t ∨ ∃ b, look t = .ok b ∧ (f b).Fails t e t' := by
  rw [fails_bind, fails_query]
  simp only [yields_query]
  refine or_congr_right ⟨?_, ?_⟩
  · rintro ⟨b, s, ⟨hb, rfl⟩, hf⟩; exact ⟨b, hb, hf⟩
  · rintro ⟨b, hb, hf⟩; exact ⟨b, t, ⟨hb, rfl⟩, hf⟩

namespace Commands

variable {t t' : FileTree} {e : Failure}

section ReadCorpus

variable {dir : Path} {β : Type} {rest : Corpus → Change Failure β}

/-- What begins with reading a corpus fails over one of its files, or later with all of them read. -/
theorem cases_of_fails_readCorpus (h : (readCorpus dir >>= rest).Fails t e t') :
    (∃ f ∈ t.filesAt dir, Corpus.Unreadable f ∧ e = Corpus.readingFailure f) ∧ t' = t ∨
      (¬∃ f ∈ t.filesAt dir, Corpus.Unreadable f) ∧ ∃ c, (rest c).Fails t e t' := by
  obtain ⟨hread, ht⟩ | ⟨c, hread, hrest⟩ := Change.fails_query_bind.1 h
  · exact .inl ⟨Corpus.exists_of_read_eq_error hread, ht⟩
  · refine .inr ⟨fun hbad => ?_, c, hrest⟩
    obtain ⟨f, -, -, herr⟩ := Corpus.exists_ofFiles_eq_error hbad
    cases hread.symm.trans herr

theorem exists_fails_readCorpus (hbad : ∃ f ∈ t.filesAt dir, Corpus.Unreadable f) :
    ∃ e, (readCorpus dir >>= rest).Fails t e t := by
  obtain ⟨f, -, -, herr⟩ := Corpus.exists_ofFiles_eq_error hbad
  exact ⟨_, Change.fails_query_bind.2 (.inl ⟨herr, rfl⟩)⟩

end ReadCorpus

/-! ## Runs -/

/-- A run of one of the commands; `now` is the time that a manifest states. -/
inductive Run where
  | index (corpus output : Path)
  | weights (now : String) (corpus output : Path)
  | links (pages metadata output : Path)

namespace Run

/-- The command of a run. -/
def command (U : Type) [DecidableEq U] [Address U] : Run → Command
  | .index corpus output => buildIndex corpus output
  | .weights now corpus output => writeWeights now corpus output
  | .links pages metadata output => writeLinks pages metadata output U

/-- Whether an input cannot be read: a file of the corpus is not a text, or there is no text file at
the path of the document list. -/
def Unreadable (t : FileTree) : Run → Prop
  | .index corpus _ | .weights _ corpus _ => ∃ f ∈ t.filesAt corpus, Corpus.Unreadable f
  | .links _ metadata _ => ∀ list, t.readText metadata ≠ .ok list

/-- Whether a failure is over an input that cannot be read. -/
def InputFailure (t : FileTree) (e : Failure) : Run → Prop
  | .index corpus _ | .weights _ corpus _ =>
    ∃ f ∈ t.filesAt corpus, Corpus.Unreadable f ∧ e = Corpus.readingFailure f
  | .links _ metadata _ => ∃ cause, t.readText metadata = .error (.file metadata cause) ∧
    e = .context ("reading document list " ++ metadata.text) (.load (.file metadata cause))

/-- The files that a run makes. -/
def Makes (p : Path) : Run → Prop
  | .index _ output => p = Snapshot.invertedIndex ⟨output⟩
  | .weights _ _ output => (∃ space doc, p = Snapshot.weightsFile ⟨output⟩ space doc) ∨
    p = Snapshot.lemmaMap ⟨output⟩ ∨ p = Snapshot.manifest ⟨output⟩
  | .links _ _ output => p = Snapshot.links ⟨output⟩

/-- Whether a failure is over the copy of a document list, which can be read but not be put where it
belongs. -/
def CopyFailure (t' : FileTree) (e : Failure) : Run → Prop
  | .links _ metadata output => ∃ list cause, t'.readText metadata = .ok list ∧
    t'.write (Snapshot.documents ⟨output⟩) list.toUTF8 = .error cause ∧
    e = .context ("copying " ++ metadata.text) (.io cause)
  | _ => False

/-- Whether a failure is over a file that the run makes or copies, or over the directory of one. -/
def OutputFailure (t' : FileTree) (e : Failure) (run : Run) : Prop :=
  (∃ p q cause, run.Makes p ∧ (q = p ∨ p.parent? = some q) ∧ e = .load (.file q cause)) ∨
    run.CopyFailure t' e

/-! ## Failing over an output -/

theorem exists_of_fails_save {p : Path} {text : String}
    (h : (save (Change.saveText p text)).Fails t e t') :
    ∃ q cause, (q = p ∨ p.parent? = some q) ∧ e = .load (.file q cause) := by
  obtain ⟨e₀, hsave, rfl⟩ := Change.fails_mapError.1 h
  obtain ⟨q, cause, hq, rfl⟩ := Change.exists_of_fails_saveText hsave
  exact ⟨q, cause, hq, rfl⟩

theorem OutputFailure.of_save {run : Run} {p : Path} {text : String} (hp : run.Makes p)
    (h : (save (Change.saveText p text)).Fails t e t') : run.OutputFailure t' e := by
  obtain ⟨q, cause, hq, he⟩ := exists_of_fails_save h
  exact .inl ⟨p, q, cause, hp, hq, he⟩

theorem OutputFailure.of_saveDocWeights {now : String} {corpus output : Path}
    {w : Corpus.DocWeights Binary64} (h : (saveDocWeights ⟨output⟩ w).Fails t e t') :
    OutputFailure t' e (.weights now corpus output) := by
  unfold saveDocWeights at h
  obtain htokens | ⟨_, s, -, hlemmas⟩ := Change.fails_bind.1 h
  · exact .of_save (.inl ⟨_, _, rfl⟩) htokens
  · split at hlemmas
    · exact .of_save (.inl ⟨_, _, rfl⟩) hlemmas
    · exact absurd hlemmas Change.not_fails_pure

theorem OutputFailure.of_saveAllWeights {now : String} {corpus output : Path} :
    ∀ {ws : List (Corpus.DocWeights Binary64)} {t : FileTree},
      (saveAllWeights ⟨output⟩ ws).Fails t e t' → OutputFailure t' e (.weights now corpus output)
  | [], _, h => absurd h Change.not_fails_pure
  | w :: ws, _, h => by
    obtain hfirst | ⟨_, s, -, hrest⟩ := Change.fails_bind.1 h
    · exact .of_saveDocWeights hfirst
    · exact of_saveAllWeights hrest

/-- A list that can be read is copied unless it cannot be written. -/
theorem CopyFailure.of_copyFile {pages metadata output : Path} {list : String}
    (hlist : t.readText metadata = .ok list)
    (h : (Change.mapError (.context ("copying " ++ metadata.text))
      (copyFile metadata (Snapshot.documents ⟨output⟩))).Fails t e t') :
    CopyFailure t' e (.links pages metadata output) := by
  obtain ⟨e₀, hcopy, rfl⟩ := Change.fails_mapError.1 h
  obtain ⟨hstep, rfl⟩ := Change.fails_attempt.1 hcopy
  rw [FileTree.readText_eq_ok_iff.1 hlist] at hstep
  obtain ⟨cause, hwrite, rfl⟩ := Change.except_mapError_eq_error_iff.1 hstep
  exact ⟨list, cause, hlist, hwrite, rfl⟩

/-! ## The three commands -/

variable {U : Type} [DecidableEq U] [Address U]

/-- A run that fails does so over an input, before it changes anything, or over an output, when all
its inputs can be read. -/
theorem failure_cases (run : Run) (h : (run.command U).Fails t e t') :
    run.InputFailure t e ∧ t' = t ∨ ¬run.Unreadable t ∧ run.OutputFailure t' e := by
  cases run with
  | index corpus output =>
    refine (cases_of_fails_readCorpus h).imp_right fun ⟨hread, c, hsave⟩ => ⟨hread, ?_⟩
    exact .of_save rfl hsave
  | weights now corpus output =>
    refine (cases_of_fails_readCorpus h).imp_right fun ⟨hread, c, hsave⟩ => ⟨hread, ?_⟩
    obtain hweights | ⟨_, s, -, htables⟩ := Change.fails_bind.1 hsave
    · exact .of_saveAllWeights hweights
    obtain htable | ⟨_, s', -, hmanifest⟩ := Change.fails_bind.1 htables
    · exact .of_save (.inr (.inl rfl)) htable
    · exact .of_save (.inr (.inr rfl)) hmanifest
  | links pages metadata output =>
    obtain ⟨hread, ht⟩ | ⟨docs, hread, hrest⟩ := Change.fails_query_bind.1 h
    · obtain ⟨e₁, he₁, rfl⟩ := Change.except_mapError_eq_error_iff.1 hread
      obtain ⟨e₀, he₀, rfl⟩ := Change.except_mapError_eq_error_iff.1 he₁
      have herr := FileTree.loadDocuments_eq_error_iff.1 he₀
      obtain ⟨cause, rfl⟩ := FileTree.exists_of_readText_eq_error herr
      exact .inl ⟨⟨cause, herr, rfl⟩, ht⟩
    · obtain ⟨list, hlist, rfl⟩ := FileTree.loadDocuments_eq_ok_iff.1
        (Change.except_mapError_eq_ok_iff.1 (Change.except_mapError_eq_ok_iff.1 hread))
      refine .inr ⟨fun hbad => hbad list hlist, ?_⟩
      obtain ⟨⟨⟩, -⟩ | ⟨g, ⟨⟩, hrest⟩ := Change.fails_query_bind.1 hrest
      obtain hsave | ⟨_, t₁, hsave, hrest⟩ := Change.fails_bind.1 hrest
      · exact .of_save rfl hsave
      obtain ⟨⟨⟩, -⟩ | ⟨same, ⟨⟩, hcopy⟩ := Change.fails_query_bind.1 hrest
      -- the list can still be read after the graph was saved, even where it was the graph's file
      obtain ⟨-, -, -, list', hlist', -⟩ := exists_of_saveLinkGraph hlist (Change.yields_mapError.1 hsave)
      split at hcopy
      · exact absurd hcopy Change.not_fails_pure
      · exact .inr (.of_copyFile hlist' hcopy)

/-- A run whose inputs cannot all be read fails over one of them, and changes nothing. -/
theorem fails_of_unreadable {run : Run} (h : run.Unreadable t) :
    ∃ e, run.InputFailure t e ∧ (run.command U).Fails t e t := by
  have hfails : ∃ e, (run.command U).Fails t e t := by
    cases run with
    | index corpus output => exact exists_fails_readCorpus h
    | weights now corpus output => exact exists_fails_readCorpus h
    | links pages metadata output =>
      cases hread : t.readText metadata with
      | ok list => exact absurd hread (h list)
      | error e =>
        have hlook : inContext ("reading document list " ++ metadata.text)
            (orFail (t.loadDocuments metadata)) =
            .error (.context ("reading document list " ++ metadata.text) (.load e)) := by
          rw [FileTree.loadDocuments_eq_error_iff.2 hread]
          rfl
        exact ⟨_, Change.fails_query_bind.2 (.inl ⟨hlook, rfl⟩)⟩
  obtain ⟨e, he⟩ := hfails
  obtain ⟨hinput, -⟩ | ⟨hread, -⟩ := failure_cases run he
  · exact ⟨e, hinput, he⟩
  · exact absurd h hread

variable (U) in
/-- **Bad inputs.** A run of a command with an input that cannot be read, a corpus file that is not a
text, wherever it stands among the others, or a document list that is not there or not a text, fails
over such an input and leaves the whole tree as it was. A run that fails in any other way could read
all its inputs: it fails over a file that it makes or over the directory of one. -/
theorem tree_of_inputFailure (run : Run) (t : FileTree) :
    (run.Unreadable t → ∃ e, run.InputFailure t e ∧ (run.command U).Fails t e t) ∧
    ∀ e t', (run.command U).Fails t e t' →
      run.InputFailure t e ∧ t' = t ∨ ¬run.Unreadable t ∧ run.OutputFailure t' e :=
  ⟨fails_of_unreadable, fun _ _ => failure_cases run⟩

/-- A tree with a snapshot, with a corpus of which one file, between others, is not a text, and
without a document list. -/
def spoiltTree : FileTree :=
  ((((FileTree.empty.putDirectory ["corpus"]).putFile ["corpus", "lemmas1.txt"] "cat cats\n".toUTF8).putFile
    ["corpus", "tokens1.txt"] ⟨#[255]⟩).putFile ["corpus", "tokens2.txt"] "dog\n".toUTF8).putFile
      ["inverted_index.txt"] "cat:1\n".toUTF8

theorem tree_of_inputFailure_spoiltTree : ∀ run ∈ [index ⟨"corpus"⟩ ⟨"."⟩,
      weights "" ⟨"corpus"⟩ ⟨"."⟩, links ⟨"corpus"⟩ ⟨"index.txt"⟩ ⟨"."⟩],
    run.Unreadable spoiltTree ∧ ∃ e, run.InputFailure spoiltTree e ∧
      (run.command Url).Fails spoiltTree e spoiltTree := by
  have hcorpus : ∃ f ∈ spoiltTree.filesAt ⟨"corpus"⟩, Corpus.Unreadable f := by decide +kernel
  have hlist : ∀ list, spoiltTree.readText ⟨"index.txt"⟩ ≠ .ok list := by
    intro list hread
    have hnone : (spoiltTree.readText ⟨"index.txt"⟩).toOption = none := by decide +kernel
    rw [hread] at hnone
    cases hnone
  have hall : ∀ run ∈ [index ⟨"corpus"⟩ ⟨"."⟩, weights "" ⟨"corpus"⟩ ⟨"."⟩,
      links ⟨"corpus"⟩ ⟨"index.txt"⟩ ⟨"."⟩], run.Unreadable spoiltTree := by
    simp only [List.forall_mem_cons, List.not_mem_nil, false_implies, implies_true, and_true]
    exact ⟨hcorpus, hcorpus, hlist⟩
  exact fun run hrun => ⟨hall run hrun, (tree_of_inputFailure Url run spoiltTree).1 (hall run hrun)⟩

end Run

end Commands

end DocSearch
