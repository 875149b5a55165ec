/-
Transcripts of sessions. A session goes line by line: behind its banner stand a prompt and an answer
for each line, and an answer depends on nothing but its own line. It ends at the first line that
quits or is not UTF-8, or behind the last line, and always with one more prompt. So a line that is
answered adds its own answer to the transcript and changes nothing before or behind it.
-/
import DocSearch.Defaults
import DocSearch.Proofs.BoolQuery.Universe
import DocSearch.Proofs.Inserts
import DocSearch.Proofs.Text.Lines
import DocSearch.Session

namespace DocSearch.Session

open Text

/-! ## Lines of an input -/

/-- The input of some lines, each ended by a newline, and a last piece that is not. -/
def inputOf (ended : List (List UInt8)) (last : List UInt8) : ByteArray :=
  ⟨(ended.flatMap (· ++ [10]) ++ last).toArray⟩

/-- The lines of an input: what ends at a newline, and what is left behind the last newline. -/
inductive IsLines (input : ByteArray) : List (List UInt8) → Prop where
  | ended {ls : List (List UInt8)} (hn : ∀ l ∈ ls, 10 ∉ l) (hi : input = inputOf ls []) :
      IsLines input ls
  | unended {ls : List (List UInt8)} {last : List UInt8} (hn : ∀ l ∈ ls ++ [last], 10 ∉ l)
      (he : last ≠ []) (hi : input = inputOf ls last) : IsLines input (ls ++ [last])

/-- What stands behind the last newline is a line unless it is empty. -/
def lastLine (last : List UInt8) : List (List UInt8) := if last = [] then [] else [last]

theorem inputLines_inputOf {ls : List (List UInt8)} {last : List UInt8}
    (hn : ∀ l ∈ ls ++ [last], 10 ∉ l) : inputLines (inputOf ls last) = ls ++ lastLine last := by
  unfold inputLines inputOf lastLine
  rw [List.toList_toArray, splitOn_ended hn]
  simp only [List.getLast?_concat, List.dropLast_concat, Option.some.injEq]
  split
  · rw [List.append_nil]
  · rfl

/-- Every input has its lines and no others. -/
theorem isLines_iff {input : ByteArray} {lines : List (List UInt8)} :
    IsLines input lines ↔ inputLines input = lines := by
  constructor
  · intro h
    cases h with
    | ended hn hi =>
      have hpieces : ∀ l ∈ lines ++ [[]], 10 ∉ l := by
        simp only [List.forall_mem_append, List.forall_mem_singleton]
        exact ⟨hn, List.not_mem_nil⟩
      rw [hi, inputLines_inputOf hpieces, lastLine, if_pos rfl, List.append_nil]
    | unended hn he hi => rw [hi, inputLines_inputOf hn, lastLine, if_neg he]
  · rintro rfl
    obtain ⟨ls, last, hn, hi⟩ := exists_ended (10 : UInt8) input.data.toList
    have hinput : input = inputOf ls last := by
      apply ByteArray.ext
      rw [inputOf, ← hi, Array.toArray_toList]
    rw [hinput, inputLines_inputOf hn, lastLine]
    split
    · rename_i he
      rw [List.append_nil, he]
      exact .ended (fun l h => hn l (List.mem_append_left _ h)) rfl
    · rename_i he
      exact .unended hn he rfl

/-! ## The word that ends a boolean session -/

/-- The texts that end a boolean session: `exit`, each letter small or capital. -/
def IsExit (query : String) : Prop :=
  List.Forall₂ (fun c d => c = d ∨ c = d.toUpper) query.toList "exit".toList

theorem toNat_toLower (c : Char) :
    c.toLower.toNat = if 65 ≤ c.toNat ∧ c.toNat ≤ 90 then c.toNat + 32 else c.toNat := by
  unfold Char.toLower
  split
  · rename_i h
    have hfirst : 65 ≤ c.toNat := UInt32.le_iff_toNat_le.1 h.1
    have hlast : c.toNat ≤ 90 := UInt32.le_iff_toNat_le.1 h.2
    rw [if_pos ⟨hfirst, hlast⟩]
    change (c.val + _).toNat = _
    rw [UInt32.toNat_add]
    exact Nat.mod_eq_of_lt (show c.toNat + 32 < 2 ^ 32 by omega)
  · rename_i h
    rw [if_neg fun hc => h ⟨UInt32.le_iff_toNat_le.2 hc.1, UInt32.le_iff_toNat_le.2 hc.2⟩]

theorem toLower_eq_iff {c d : Char} (hu : 65 ≤ d.toUpper.toNat ∧ d.toUpper.toNat ≤ 90)
    (hd : d.toUpper.toNat + 32 = d.toNat) : c.toLower = d ↔ c = d ∨ c = d.toUpper := by
  rw [← Char.toNat_inj, toNat_toLower, ← Char.toNat_inj, ← Char.toNat_inj]
  split <;> omega

theorem isExit_iff {query : String} : isExit query = true ↔ IsExit query := by
  have he {c : Char} : c.toLower = 'e' ↔ _ := toLower_eq_iff (by decide) (by decide)
  have hx {c : Char} : c.toLower = 'x' ↔ _ := toLower_eq_iff (by decide) (by decide)
  have hi {c : Char} : c.toLower = 'i' ↔ _ := toLower_eq_iff (by decide) (by decide)
  have ht {c : Char} : c.toLower = 't' ↔ _ := toLower_eq_iff (by decide) (by decide)
  have hexit : "exit".toList = ['e', 'x', 'i', 't'] := rfl
  unfold isExit IsExit
  rw [decide_eq_true_iff, ← List.forall₂_eq_eq_eq, List.forall₂_map_left_iff, hexit]
  simp only [List.forall₂_cons_right_iff, List.forall₂_nil_right_iff, he, hx, hi, ht]

/-- The word that ends a session would be a query with an answer. -/
theorem tokens_exit {query : String} (h : IsExit query) :
    BoolQuery.tokens query = [.word "exit"] := by
  have hexit : "exit".toList = ['e', 'x', 'i', 't'] := rfl
  unfold IsExit at h
  rw [hexit] at h
  simp only [List.forall₂_cons_right_iff, List.forall₂_nil_right_iff] at h
  obtain ⟨e, _, he, ⟨x, _, hx, ⟨i, _, hi, ⟨t, _, ht, rfl, rfl⟩, rfl⟩, rfl⟩, hq⟩ := h
  obtain rfl : query = .ofList [e, x, i, t] := by rw [← hq, String.ofList_toList]
  rcases he with rfl | rfl <;> rcases hx with rfl | rfl <;> rcases hi with rfl | rfl <;>
    rcases ht with rfl | rfl <;> decide +kernel

theorem not_isExit_of_error {p : Postings} {query : String} {e : BoolQuery.QueryError}
    (h : BoolQuery.evaluate p query = .error e) : ¬ IsExit query := fun hexit => by
  rw [BoolQuery.evaluate_word (tokens_exit hexit)] at h
  cases h

/-! ## Answers -/

/-- The answer to a boolean query: the numbers of its documents, ascending and with commas between
them, or the message of the error that it makes. -/
inductive IsBooleanAnswer (p : Postings) (query : String) : String → Prop where
  | results {docs : DocSet} {ids : List DocId} (h : BoolQuery.evaluate p query = .ok docs)
      (hascending : ids.Pairwise (· < ·)) (hmem : ∀ d, d ∈ ids ↔ d ∈ docs) :
      IsBooleanAnswer p query ("Results: " ++ ", ".intercalate (ids.map (·.toNat.repr)) ++ "\n")
  | error {e : BoolQuery.QueryError} (h : BoolQuery.evaluate p query = .error e) :
      IsBooleanAnswer p query ("Error: " ++ e.message ++ "\n")

/-- The answer to a ranked query: a heading with the query, and for each hit in turn a line with the
number of the document and its score, with four digits behind the point, in parentheses. -/
def IsRankedAnswer (e : Engine Binary64) (sp : SearchSpace) (topK : Nat) (query text : String) : Prop :=
  text = "Results for '" ++ query ++ "':\n" ++ String.join ((e.searchIn sp query topK).map fun h =>
    h.doc.toNat.repr ++ " (" ++ h.score.fixed 4 ++ ")\n")

/-- There is one ascending list of the documents of a set. -/
theorem eq_toList_of_pairwise {docs : DocSet} {ids : List DocId} (h : ids.Pairwise (· < ·))
    (hmem : ∀ d, d ∈ ids ↔ d ∈ docs) : ids = docs.toList := by
  have hlist : docs.toList.Pairwise (· < ·) :=
    Std.ExtTreeSet.ordered_toList.imp Std.compare_eq_lt.1
  have hperm : ids.Perm docs.toList :=
    (List.perm_ext_iff_of_nodup (h.imp UInt32.ne_of_lt) (nodup_toList docs)).2 fun d => by
      rw [hmem, Std.ExtTreeSet.mem_toList]
  exact hperm.eq_of_pairwise (fun _ _ _ _ hab hba => absurd hba (UInt32.lt_asymm hab)) h hlist

theorem isBooleanAnswer_iff {p : Postings} {query text : String} :
    IsBooleanAnswer p query text ↔ booleanAnswer p query = text := by
  unfold booleanAnswer
  constructor
  · rintro (⟨h, hascending, hmem⟩ | ⟨h⟩)
    · rw [h, eq_toList_of_pairwise hascending hmem]
      rfl
    · rw [h]
  · rintro rfl
    cases h : BoolQuery.evaluate p query with
    | ok docs =>
      exact .results h (Std.ExtTreeSet.ordered_toList.imp Std.compare_eq_lt.1) fun _ =>
        Std.ExtTreeSet.mem_toList
    | error e => exact .error h

theorem isRankedAnswer_iff {e : Engine Binary64} {sp : SearchSpace} {topK : Nat}
    {query text : String} : IsRankedAnswer e sp topK query text ↔ rankedAnswer e sp topK query = text :=
  eq_comm

/-! ## Line by line -/

/-- A session that quits at some texts and answers all others. -/
structure Replies (s : Session) (Quits : String → Prop) (answer : String → String) : Prop where
  quit : ∀ {q}, Quits q → s.reply q = .quit
  answer : ∀ {q}, ¬ Quits q → s.reply q = .answer (answer q)

theorem replies_boolean (p : Postings) : Replies (boolean p) IsExit (booleanAnswer p) where
  quit h := if_pos (isExit_iff.2 h)
  answer h := if_neg fun hexit => h (isExit_iff.1 hexit)

theorem replies_ranked (e : Engine Binary64) (sp : SearchSpace) (topK : Nat) :
    Replies (ranked e sp topK) (· = "q") (rankedAnswer e sp topK) where
  quit h := if_pos h
  answer h := if_neg h

/-- Lines that are answered, and their texts. -/
def Answered (Quits : String → Prop) : List (List UInt8) → List String → Prop :=
  List.Forall₂ fun l q => lineText? l = some q ∧ ¬ Quits q

/-- Lines that get no answer: none, or some that begin with one that quits or is not UTF-8. A session
writes `close` behind the last prompt, and may fail. -/
inductive Ending (Quits : String → Prop) : List (List UInt8) → String → Bool → Prop where
  | done : Ending Quits [] "\n" false
  | quit {l : List UInt8} {q : String} {rest : List (List UInt8)} (ht : lineText? l = some q)
      (hq : Quits q) : Ending Quits (l :: rest) "" false
  | broken {l : List UInt8} {rest : List (List UInt8)} (ht : lineText? l = none) :
      Ending Quits (l :: rest) "" true

/-- What is written for lines with these answers. -/
def dialogue (answers : List String) : String := String.join (answers.map ("Query> " ++ ·))

/-- A transcript that goes line by line: behind the banner stand the prompt and an answer for each
line up to the first that gets none, and the prompt once more. -/
def LineWise (banner : String) (Quits : String → Prop) (Answers : String → String → Prop)
    (input : ByteArray) (t : Transcript) : Prop :=
  ∃ answered rest queries answers close, IsLines input (answered ++ rest) ∧
    Answered Quits answered queries ∧ List.Forall₂ Answers queries answers ∧
    Ending Quits rest close t.failed ∧ t.output = banner ++ dialogue answers ++ "Query> " ++ close

section Converse

variable {s : Session} {Quits : String → Prop} {answer : String → String}

/-- Lines fall into those that are answered and those that are not. -/
theorem exists_answered (Quits : String → Prop) : ∀ lines, ∃ answered rest queries close failed,
    lines = answered ++ rest ∧ Answered Quits answered queries ∧ Ending Quits rest close failed
  | [] => ⟨[], [], [], "\n", false, rfl, .nil, .done⟩
  | l :: lines => by
    cases ht : lineText? l with
    | none => exact ⟨[], l :: lines, [], "", true, rfl, .nil, .broken ht⟩
    | some q =>
      by_cases hq : Quits q
      · exact ⟨[], l :: lines, [], "", false, rfl, .nil, .quit ht hq⟩
      · obtain ⟨answered, rest, queries, close, failed, hl, ha, he⟩ := exists_answered Quits lines
        exact ⟨l :: answered, rest, q :: queries, close, failed, congrArg _ hl, .cons ⟨ht, hq⟩ ha, he⟩

theorem converse_cons (hr : Replies s Quits answer) {l : List UInt8} {q : String}
    (ht : lineText? l = some q) (hq : ¬ Quits q) (written : String) (rest : List (List UInt8)) :
    converse s.reply written (l :: rest) =
      converse s.reply (written ++ (prompt ++ answer q)) rest := by
  rw [converse, ht]
  simp only [hr.answer hq, String.append_assoc]

/-- Lines that are answered leave the rest of the session as it is. -/
theorem converse_append (hr : Replies s Quits answer) {answered : List (List UInt8)}
    {queries : List String} (h : Answered Quits answered queries) (written : String)
    (rest : List (List UInt8)) : converse s.reply written (answered ++ rest) =
      converse s.reply (written ++ dialogue (queries.map answer)) rest := by
  induction h generalizing written with
  | nil => simp [dialogue]
  | cons hq _ ih =>
    rw [List.cons_append, converse_cons hr hq.1 hq.2, ih, dialogue, dialogue, List.map_cons,
      List.map_cons, String.join_cons, String.append_assoc]
    rfl

theorem converse_ending (hr : Replies s Quits answer) {rest : List (List UInt8)} {close : String}
    {failed : Bool} (h : Ending Quits rest close failed) (written : String) :
    converse s.reply written rest = ⟨written ++ prompt ++ close, failed⟩ := by
  cases h with
  | done => rfl
  | quit ht hq =>
    rw [converse, ht]
    simp only [hr.quit hq, String.append_empty]
  | broken ht =>
    rw [converse, ht]
    simp only [String.append_empty]

/-- A session goes line by line, and there is one transcript that does so. -/
theorem run_eq_iff (hr : Replies s Quits answer) {Answers : String → String → Prop}
    (hanswers : ∀ {q text}, Answers q text ↔ answer q = text) {input : ByteArray} {t : Transcript} :
    s.run input = t ↔ LineWise s.banner Quits Answers input t := by
  have hrun {answered rest queries close failed} (hl : inputLines input = answered ++ rest)
      (ha : Answered Quits answered queries) (he : Ending Quits rest close failed) : s.run input =
        ⟨s.banner ++ dialogue (queries.map answer) ++ prompt ++ close, failed⟩ := by
    rw [run, hl, converse_append hr ha, converse_ending hr he]
  have hall {queries answers} : List.Forall₂ Answers queries answers ↔ queries.map answer = answers := by
    have heq : Answers = fun q text => answer q = text := funext₂ fun _ _ => propext hanswers
    rw [heq, ← List.forall₂_eq_eq_eq, List.forall₂_map_left_iff]
  constructor
  · rintro rfl
    obtain ⟨answered, rest, queries, close, failed, hl, ha, he⟩ :=
      exists_answered Quits (inputLines input)
    rw [hrun hl ha he]
    exact ⟨answered, rest, queries, _, close, isLines_iff.2 hl, ha, hall.2 rfl, he, rfl⟩
  · rintro ⟨answered, rest, queries, answers, close, hl, ha, htexts, he, hout⟩
    rw [hrun (isLines_iff.1 hl) ha he, hall.1 htexts]
    exact congrArg (Transcript.mk · t.failed) hout.symm

/-! ## What a line adds -/

/-- What a line adds to a session: its own text, or nothing where the session is over before the
line. Here `before` is the session on the lines before it, the other two are those without the line
and with it. -/
inductive Adds (text : String) (before : Transcript) : Transcript → Transcript → Prop where
  | answered {head tail : String} {failed : Bool} (hb : before = ⟨head ++ prompt ++ "\n", false⟩) :
      Adds text before ⟨head ++ tail, failed⟩ ⟨head ++ text ++ tail, failed⟩
  | over {head : String} (hb : before.output = head ++ prompt) : Adds text before before before

/-- What is written for lines does not depend on what was written before them. -/
theorem exists_converse (hr : Replies s Quits answer) (lines : List (List UInt8)) :
    ∃ tail failed, ∀ written, converse s.reply written lines = ⟨written ++ tail, failed⟩ := by
  obtain ⟨answered, rest, queries, close, failed, rfl, ha, he⟩ := exists_answered Quits lines
  refine ⟨dialogue (queries.map answer) ++ prompt ++ close, failed, fun written => ?_⟩
  rw [converse_append hr ha, converse_ending hr he]
  simp only [String.append_assoc]

/-- Where a line ends a session, nothing behind it counts. -/
theorem Ending.over {l : List UInt8} {rest : List (List UInt8)} {close : String} {failed : Bool}
    (h : Ending Quits (l :: rest) close failed) :
    close = "" ∧ ∀ lines, Ending Quits (l :: lines) close failed := by
  cases h with
  | quit ht hq => exact ⟨rfl, fun _ => .quit ht hq⟩
  | broken ht => exact ⟨rfl, fun _ => .broken ht⟩

theorem converse_adds (hr : Replies s Quits answer) {l : List UInt8} {q : String}
    (ht : lineText? l = some q) (hq : ¬ Quits q) (written : String) (xs ys : List (List UInt8)) :
    Adds (prompt ++ answer q) (converse s.reply written xs) (converse s.reply written (xs ++ ys))
      (converse s.reply written (xs ++ l :: ys)) := by
  obtain ⟨answered, rest, queries, close, failed, rfl, ha, he⟩ := exists_answered Quits xs
  simp only [List.append_assoc, converse_append hr ha]
  cases rest with
  | nil =>
    obtain ⟨tail, failed, htail⟩ := exists_converse hr ys
    rw [List.nil_append, List.nil_append, converse_cons hr ht hq, htail, htail]
    exact .answered rfl
  | cons m rest =>
    obtain ⟨rfl, hover⟩ := he.over
    simp only [List.cons_append, converse_ending hr (hover _)]
    exact .over String.append_empty

theorem run_adds (hr : Replies s Quits answer) {xs ys : List (List UInt8)} {l last : List UInt8}
    {q : String} (hn : ∀ m ∈ xs ++ l :: ys ++ [last], 10 ∉ m) (ht : lineText? l = some q)
    (hq : ¬ Quits q) : Adds (prompt ++ answer q) (s.run (inputOf xs []))
      (s.run (inputOf (xs ++ ys) last)) (s.run (inputOf (xs ++ l :: ys) last)) := by
  have hbefore : ∀ m ∈ xs ++ [[]], 10 ∉ m := by
    simp only [List.forall_mem_append, List.forall_mem_singleton] at hn ⊢
    exact ⟨hn.1.1, List.not_mem_nil⟩
  have hwithout : ∀ m ∈ xs ++ ys ++ [last], 10 ∉ m := by
    simp only [List.forall_mem_append, List.forall_mem_cons] at hn ⊢
    exact ⟨⟨hn.1.1, hn.1.2.2⟩, hn.2⟩
  unfold run
  rw [inputLines_inputOf hbefore, inputLines_inputOf hwithout, inputLines_inputOf hn,
    List.append_assoc, List.append_assoc, List.cons_append]
  have hend : lastLine [] = [] := rfl
  rw [hend, List.append_nil]
  exact converse_adds hr ht hq _ _ _

end Converse

/-! ## Both sessions -/

/-- For every input there is one transcript that goes line by line, and a session writes that one: a
boolean session answers up to `exit` with the documents of a query or its error, and a ranked one up
to `q` with a heading and a line for each hit. A boolean query that cannot be parsed adds its message
to the transcript and changes nothing that is written before or behind it. -/
theorem transcripts_lineWise :
    (∀ (p : Postings) (input : ByteArray) (t : Transcript), (boolean p).run input = t ↔
      LineWise "Boolean Search (AND/OR/NOT, use parentheses)\n" IsExit (IsBooleanAnswer p) input t) ∧
    (∀ (e : Engine Binary64) (sp : SearchSpace) (topK : Nat) (input : ByteArray) (t : Transcript),
      (ranked e sp topK).run input = t ↔
        LineWise "Enter a query (q to quit)\n" (· = "q") (IsRankedAnswer e sp topK) input t) ∧
    (∀ (p : Postings) (xs ys : List (List UInt8)) (l last : List UInt8) (q : String)
      (e : BoolQuery.QueryError), (∀ m ∈ xs ++ l :: ys ++ [last], 10 ∉ m) → lineText? l = some q →
      BoolQuery.evaluate p q = .error e →
      Adds (prompt ++ ("Error: " ++ e.message ++ "\n")) ((boolean p).run (inputOf xs []))
        ((boolean p).run (inputOf (xs ++ ys) last))
        ((boolean p).run (inputOf (xs ++ l :: ys) last))) := by
  refine ⟨fun p input t => run_eq_iff (replies_boolean p) isBooleanAnswer_iff,
    fun e sp topK input t => run_eq_iff (replies_ranked e sp topK) isRankedAnswer_iff, ?_⟩
  intro p xs ys l last q e hn ht he
  have hanswer : booleanAnswer p q = "Error: " ++ e.message ++ "\n" := by
    unfold booleanAnswer
    rw [he]
  rw [← hanswer]
  exact run_adds (replies_boolean p) hn ht (not_isExit_of_error he)

/-- The line with a text. -/
def lineOf (text : String) : List UInt8 := text.toUTF8.data.toList

/-- An engine with a single document, which is about cats. -/
def catEngine : Engine Binary64 where
  model :=
    let cat := WeightRecord.mk "cat" (Binary64.ofNat 1) (Binary64.ofNat 1)
    { tokens := TermSpace.ofDocuments [(1, [cat])], lemmas := TermSpace.empty, table := ∅ }
  authority := none
  config := RankingConfig.standard

/-- A query with an open parenthesis, between one that is answered and the end of the session, and a
ranked session with a hit. -/
theorem transcripts_lineWise_open :
    (∀ m ∈ [lineOf "fox"] ++ lineOf " (fox " :: [lineOf "EXIT"] ++ [lineOf "cat"], 10 ∉ m) ∧
    lineText? (lineOf " (fox ") = some "(fox" ∧
    BoolQuery.evaluate (Postings.ofText "fox: 1, 2\n") "(fox" = .error .unbalancedParenthesis ∧
    Adds (prompt ++ ("Error: " ++ BoolQuery.QueryError.unbalancedParenthesis.message ++ "\n"))
      ((boolean (Postings.ofText "fox: 1, 2\n")).run (inputOf [lineOf "fox"] []))
      ((boolean (Postings.ofText "fox: 1, 2\n")).run
        (inputOf ([lineOf "fox"] ++ [lineOf "EXIT"]) (lineOf "cat")))
      ((boolean (Postings.ofText "fox: 1, 2\n")).run
        (inputOf ([lineOf "fox"] ++ lineOf " (fox " :: [lineOf "EXIT"]) (lineOf "cat"))) ∧
    LineWise "Enter a query (q to quit)\n" (· = "q")
      (IsRankedAnswer catEngine (.single .tokens) 10) (inputOf [lineOf "cat"] (lineOf "q"))
      ⟨"Enter a query (q to quit)\nQuery> Results for 'cat':\n1 (1.0000)\nQuery> ", false⟩ := by
  have hn : ∀ m ∈ [lineOf "fox"] ++ lineOf " (fox " :: [lineOf "EXIT"] ++ [lineOf "cat"], 10 ∉ m := by
    decide +kernel
  have ht : lineText? (lineOf " (fox ") = some "(fox" := by decide +kernel
  have he : BoolQuery.evaluate (Postings.ofText "fox: 1, 2\n") "(fox" =
      .error .unbalancedParenthesis := rfl
  have hranked : (ranked catEngine (.single .tokens) 10).run (inputOf [lineOf "cat"] (lineOf "q")) =
      ⟨"Enter a query (q to quit)\nQuery> Results for 'cat':\n1 (1.0000)\nQuery> ", false⟩ := by
    decide +kernel
  obtain ⟨-, hlines, hadds⟩ := transcripts_lineWise
  exact ⟨hn, ht, he, hadds _ _ _ _ _ _ _ hn ht he, (hlines _ _ _ _ _).1 hranked⟩

end DocSearch.Session
