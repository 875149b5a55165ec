/-
Tokens of free text. They are the maximal runs of word characters, in order and each in lowercase:
runs that are parted from each other, from what stands before them and from what follows by characters
of another kind. Lowercase runs are runs of word characters again, so a text of the tokens with spaces
between them has the same tokens.
-/
import DocSearch.Proofs.Text.Lowercase
import DocSearch.Proofs.Text.Trim
import DocSearch.Proofs.Text.WordChar
import DocSearch.Proofs.Text.Words
import DocSearch.Text.Tokens

namespace DocSearch.Text

variable {cs ds r separator : List Char} {rs : List (List Char)} {c : Char}

/-! ## Runs -/

/-- Whether a text is a run of word characters. -/
def IsRun (r : List Char) : Prop := r ≠ [] ∧ ∀ c ∈ r, isWordChar c = true

/-- The runs of word characters of a text. -/
def runs (cs : List Char) : List (List Char) := (cs.splitOnP (!isWordChar ·)).filter (!·.isEmpty)

theorem tokens_eq_map_runs (cs : List Char) : tokens cs = (runs cs).map lower := rfl

theorem isRun_of_mem_runs (h : r ∈ runs cs) : IsRun r := by
  obtain ⟨hr, hne⟩ := List.mem_filter.1 h
  exact ⟨by simpa using hne, fun c hc => by simpa using eq_false_of_mem_splitOnP hr c hc⟩

theorem runs_append_cons (hc : isWordChar c = false) (cs ds : List Char) :
    runs (cs ++ c :: ds) = runs cs ++ runs ds := by
  unfold runs
  rw [List.splitOnP_append_cons cs ds (by rw [hc]; rfl), List.filter_append]

theorem runs_of_isRun (h : IsRun r) : runs r = [r] := by
  unfold runs
  rw [List.splitOnP_eq_singleton fun c hc => by rw [h.2 c hc]; rfl]
  simpa using h.1

theorem runs_append_left (h : ∀ c ∈ separator, isWordChar c = false) (cs : List Char) :
    runs (separator ++ cs) = runs cs := by
  induction separator with
  | nil => rfl
  | cons c separator ih =>
    obtain ⟨hc, hrest⟩ := List.forall_mem_cons.1 h
    have hfirst := runs_append_cons hc [] (separator ++ cs)
    rw [ih hrest] at hfirst
    exact hfirst

theorem runs_of_forall (h : ∀ c ∈ cs, isWordChar c = false) : runs cs = [] := by
  have hnil := runs_append_left h []
  rwa [List.append_nil] at hnil

theorem runs_append_append (hne : separator ≠ []) (h : ∀ c ∈ separator, isWordChar c = false)
    (cs ds : List Char) : runs (cs ++ separator ++ ds) = runs cs ++ runs ds := by
  obtain ⟨c, rest, rfl⟩ := List.exists_cons_of_ne_nil hne
  obtain ⟨hc, hrest⟩ := List.forall_mem_cons.1 h
  rw [List.append_assoc, List.cons_append, runs_append_cons hc, runs_append_left hrest]

/-- No piece is blank unless it is empty, since no word character is white space. -/
theorem runs_eq_filter_trim (cs : List Char) :
    runs cs = (cs.splitOnP (!isWordChar ·)).filter fun p => !(trim p).isEmpty := by
  refine List.filter_congr fun p hp => ?_
  have hblank : ∀ c ∈ p, isBlank c = false := fun c hc =>
    isBlank_of_isWordChar (by simpa using eq_false_of_mem_splitOnP hp c hc)
  rw [trim_of_forall hblank]

/-! ## Maximal runs -/

/-- Which are the maximal runs of word characters of a text, in order: the first has no word character
before it and none right behind it, and the others are those of the rest of the text. -/
inductive MaximalRuns : List Char → List (List Char) → Prop
  | none {cs : List Char} (h : ∀ c ∈ cs, isWordChar c = false) : MaximalRuns cs []
  | run (before r : List Char) {after : List Char} {rs : List (List Char)}
      (hbefore : ∀ c ∈ before, isWordChar c = false) (hr : IsRun r)
      (hafter : ∀ c, after.head? = some c → isWordChar c = false) (hrest : MaximalRuns after rs) :
      MaximalRuns (before ++ r ++ after) (r :: rs)

namespace MaximalRuns

theorem runs_eq (h : MaximalRuns cs rs) : runs cs = rs := by
  induction h with
  | none h => exact runs_of_forall h
  | @run before r after rs hbefore hr hafter _ ih =>
    rw [List.append_assoc, runs_append_left hbefore, ← ih]
    cases after with
    | nil => rw [List.append_nil, runs_of_isRun hr]; rfl
    | cons c after =>
      -- the character behind the run ends it, and begins none of the runs of the rest
      have hc : ∀ d ∈ [c], isWordChar d = false := List.forall_mem_singleton.2 (hafter c rfl)
      rw [runs_append_cons (hafter c rfl), runs_of_isRun hr, ← List.singleton_append (x := c),
        runs_append_left hc]
      rfl

theorem cons_other (hc : isWordChar c = false) (h : MaximalRuns cs rs) : MaximalRuns (c :: cs) rs := by
  cases h with
  | none h => exact .none (List.forall_mem_cons.2 ⟨hc, h⟩)
  | run before r hbefore hr hafter hrest =>
    exact .run (c :: before) r (List.forall_mem_cons.2 ⟨hc, hbefore⟩) hr hafter hrest

/-- A word character before a text makes the first run longer, or is a run of its own. -/
theorem exists_cons (hc : isWordChar c = true) (h : MaximalRuns cs rs) :
    ∃ rs', MaximalRuns (c :: cs) rs' := by
  have hsingle : IsRun [c] := ⟨List.cons_ne_nil _ _, List.forall_mem_singleton.2 hc⟩
  have hall := h
  cases h with
  | none hother =>
    exact ⟨_, .run [] [c] nofun hsingle (fun d hd => hother d (List.mem_of_head? hd)) hall⟩
  | run before r hbefore hr hafter hrest =>
    cases before with
    | nil =>
      -- the first run begins the text, so the character belongs to it
      have hlonger : IsRun (c :: r) := ⟨List.cons_ne_nil _ _, List.forall_mem_cons.2 ⟨hc, hr.2⟩⟩
      exact ⟨_, .run [] (c :: r) nofun hlonger hafter hrest⟩
    | cons b before =>
      -- the first run is parted from the character
      refine ⟨_, .run [] [c] nofun hsingle (fun d hd => ?_) hall⟩
      cases hd
      exact hbefore b List.mem_cons_self

end MaximalRuns

theorem exists_maximalRuns : ∀ cs : List Char, ∃ rs, MaximalRuns cs rs
  | [] => ⟨[], .none nofun⟩
  | c :: cs => by
    obtain ⟨rs, h⟩ := exists_maximalRuns cs
    cases hc : isWordChar c with
    | false => exact ⟨rs, h.cons_other hc⟩
    | true => exact h.exists_cons hc

theorem maximalRuns_iff : MaximalRuns cs rs ↔ runs cs = rs := by
  refine ⟨MaximalRuns.runs_eq, ?_⟩
  rintro rfl
  obtain ⟨rs, h⟩ := exists_maximalRuns cs
  rwa [h.runs_eq]

/-! ## Tokens -/

theorem isRun_lower (h : IsRun r) : IsRun (lower r) :=
  ⟨fun hnil => h.1 (lower_eq_nil_iff.1 hnil), isWordChar_of_mem_lower h.2⟩

theorem tokenize_eq_map_runs (text : String) :
    tokenize text = (runs text.toList).map fun r => .ofList (lower r) := by
  rw [tokenize, tokens_eq_map_runs, List.map_map]
  rfl

theorem tokenize_append_append {separator : String} (hne : separator ≠ "")
    (h : ∀ c ∈ separator.toList, isWordChar c = false) (text text' : String) :
    tokenize (text ++ separator ++ text') = tokenize text ++ tokenize text' := by
  have hnil : separator.toList ≠ [] := fun hnil => hne (String.toList_eq_nil_iff.1 hnil)
  simp only [tokenize_eq_map_runs, String.toList_append]
  rw [runs_append_append hnil h, List.map_append]

/-- What a token is: a run of word characters in lowercase. -/
theorem isRun_of_mem_tokenize {text token : String} (h : token ∈ tokenize text) :
    IsRun token.toList ∧ lower token.toList = token.toList := by
  rw [tokenize_eq_map_runs] at h
  obtain ⟨r, hr, rfl⟩ := List.mem_map.1 h
  rw [String.toList_ofList]
  exact ⟨isRun_lower (isRun_of_mem_runs hr), lower_lower r⟩

theorem tokenize_of_isRun {token : String} (h : IsRun token.toList)
    (hlower : lower token.toList = token.toList) : tokenize token = [token] := by
  rw [tokenize_eq_map_runs, runs_of_isRun h, List.map_singleton, hlower, String.ofList_toList]

theorem tokenize_append_space (text text' : String) :
    tokenize (text ++ " " ++ text') = tokenize text ++ tokenize text' :=
  tokenize_append_append (by decide) (List.forall_mem_singleton.2 (by decide)) text text'

/-- Free text has as its tokens exactly its maximal runs of word characters, in order and each in
lowercase. A token is a run of word characters itself, and a text of the tokens with spaces between
them has the same tokens. Characters of another kind, as long as there is one, part the tokens of the
texts on either side of them. -/
theorem tokenize_maximalRuns (text : String) :
    (∃ rs, MaximalRuns text.toList rs ∧ (∀ rs', MaximalRuns text.toList rs' → rs' = rs) ∧
      tokenize text = rs.map fun r => .ofList (lower r)) ∧
    (∀ token ∈ tokenize text, token ≠ "" ∧ ∀ c ∈ token.toList, isWordChar c = true) ∧
    tokenize (" ".intercalate (tokenize text)) = tokenize text ∧
    ∀ separator text' : String, separator ≠ "" → (∀ c ∈ separator.toList, isWordChar c = false) →
      tokenize (text ++ separator ++ text') = tokenize text ++ tokenize text' := by
  refine ⟨⟨runs text.toList, maximalRuns_iff.2 rfl, fun rs h => h.runs_eq.symm,
    tokenize_eq_map_runs text⟩, fun token h => ?_, ?_,
    fun separator text' hne h => tokenize_append_append hne h text text'⟩
  · obtain ⟨⟨hne, hword⟩, -⟩ := isRun_of_mem_tokenize h
    exact ⟨fun hempty => hne (String.toList_eq_nil_iff.2 hempty), hword⟩
  · refine read_intercalate (by decide +kernel) tokenize_append_space fun token h => ?_
    obtain ⟨hrun, hlower⟩ := isRun_of_mem_tokenize h
    exact tokenize_of_isRun hrun hlower

/-- A sigma that ends a word, and behind a comma and a space a letter that lowercasing makes two of. -/
theorem tokenize_maximalRuns_greek :
    ", " ≠ "" ∧ (∀ c ∈ ", ".toList, isWordChar c = false) ∧ tokenize "ΟΔΟΣ" = ["οδος"] ∧
    tokenize (" ".intercalate ["οδος"]) = ["οδος"] ∧
    tokenize ("ΟΔΟΣ" ++ ", " ++ "İx") = ["οδος", "i\u0307x"] := by
  have hother : ∀ c ∈ ", ".toList, isWordChar c = false :=
    List.forall_mem_cons.2 ⟨by decide +kernel, List.forall_mem_singleton.2 (by decide +kernel)⟩
  have hleft : tokenize "ΟΔΟΣ" = ["οδος"] := by decide +kernel
  have hright : tokenize "İx" = ["i\u0307x"] := by decide +kernel
  obtain ⟨-, -, hagain, hparts⟩ := tokenize_maximalRuns "ΟΔΟΣ"
  rw [hleft] at hagain
  refine ⟨by decide, hother, hleft, hagain, ?_⟩
  rw [hparts ", " "İx" (by decide) hother, hleft, hright]
  rfl

end DocSearch.Text
