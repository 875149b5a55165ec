/-
Words of a text. They are not empty and hold no blank; a blank parts the words before it from those
behind it, and a text without blanks is a single word. The words of a text are the first one and those
of what is behind it.
-/
import DocSearch.Proofs.Text.Lines
import DocSearch.Proofs.Text.Trim

namespace DocSearch.Text

/-- Whether a text is a single word. -/
def IsWord (cs : List Char) : Prop := cs ≠ [] ∧ ∀ c ∈ cs, isBlank c = false

theorem isWord_of_mem_words {cs p : List Char} (h : p ∈ words cs) : IsWord p := by
  obtain ⟨hp, hne⟩ := List.mem_filter.1 h
  exact ⟨by simpa using hne, eq_false_of_mem_splitOnP hp⟩

theorem words_append_cons {b : Char} (hb : isBlank b = true) (cs ds : List Char) :
    words (cs ++ b :: ds) = words cs ++ words ds := by
  unfold words
  rw [List.splitOnP_append_cons cs ds hb, List.filter_append]

theorem words_of_isWord {cs : List Char} (h : IsWord cs) : words cs = [cs] := by
  unfold words
  rw [List.splitOnP_eq_singleton h.2]
  simpa using h.1

theorem words_append_of_allBlank {before cs : List Char} (hb : AllBlank before) :
    words (before ++ cs) = words cs := by
  induction before with
  | nil => rfl
  | cons b before ih =>
    obtain ⟨hblank, hbefore⟩ := List.forall_mem_cons.1 hb
    have hcons := words_append_cons hblank [] (before ++ cs)
    rw [List.nil_append] at hcons
    rw [List.cons_append, hcons, ih hbefore]
    rfl

/-! ## The first word -/

/-- Whether a text begins with a word, perhaps behind blanks, and goes on with a rest that is empty
or begins with a blank. -/
def NextWord (cs w rest : List Char) : Prop :=
  ∃ before, cs = before ++ (w ++ rest) ∧ AllBlank before ∧ IsWord w ∧
    ∀ c, rest.head? = some c → isBlank c = true

theorem NextWord.words {cs w rest : List Char} (h : NextWord cs w rest) :
    words cs = w :: words rest := by
  obtain ⟨before, rfl, hb, hw, hrest⟩ := h
  rw [words_append_of_allBlank hb]
  cases rest with
  | nil => rw [List.append_nil]; exact words_of_isWord hw
  | cons b rest =>
    have hblank : isBlank b = true := hrest b rfl
    have hb' : AllBlank [b] := List.forall_mem_singleton.2 hblank
    rw [words_append_cons hblank, words_of_isWord hw, List.singleton_append,
      ← words_append_of_allBlank hb']
    rfl

/-- A text that is not all blank begins with a word. -/
theorem exists_nextWord {cs : List Char} (h : words cs ≠ []) : ∃ w rest, NextWord cs w rest := by
  obtain ⟨before, hb, heq, hfirst⟩ := exists_dropWhile cs
  generalize cs.dropWhile isBlank = core at heq hfirst
  cases core with
  | nil => rw [heq, words_append_of_allBlank hb] at h; exact absurd rfl h
  | cons c core =>
    refine ⟨(c :: core).takeWhile (!isBlank ·), (c :: core).dropWhile (!isBlank ·), before, ?_, hb,
      ⟨?_, fun d hd => ?_⟩, fun d hd => ?_⟩
    · rw [List.takeWhile_append_dropWhile, heq]
    · simp [hfirst c rfl]
    · simpa using List.all_eq_true.1 List.all_takeWhile d hd
    · simpa [hd] using List.head?_dropWhile_not (!isBlank ·) (c :: core)

theorem words_eq_cons_iff {cs w : List Char} {ws : List (List Char)} :
    words cs = w :: ws ↔ ∃ rest, NextWord cs w rest ∧ words rest = ws := by
  constructor
  · intro h
    obtain ⟨w', rest, hnext⟩ := exists_nextWord (h ▸ List.cons_ne_nil w ws)
    obtain ⟨rfl, rfl⟩ := List.cons_eq_cons.1 (hnext.words.symm.trans h)
    exact ⟨rest, hnext, rfl⟩
  · rintro ⟨rest, hnext, rfl⟩
    exact hnext.words

/-! ## Words with spaces between them -/

/-- A text of words parted by spaces has those words. -/
theorem words_intercalate : ∀ {ws : List (List Char)}, (∀ w ∈ ws, IsWord w) →
    words ([' '].intercalate ws) = ws
  | [], _ => rfl
  | [w], h => by
    rw [List.intercalate_singleton]
    exact words_of_isWord (h w List.mem_cons_self)
  | w :: v :: ws, h => by
    obtain ⟨hw, hws⟩ := List.forall_mem_cons.1 h
    rw [List.intercalate_cons_cons, List.append_assoc, List.singleton_append,
      words_append_cons (by decide : isBlank ' ' = true), words_of_isWord hw, words_intercalate hws,
      List.singleton_append]

/-- Where a space parts what is read before it from what is read behind it, items that are each read
from their own text are read from a text of them all with spaces between them. -/
theorem read_intercalate {f : String → List String} (hempty : f "" = [])
    (happend : ∀ x y, f (x ++ " " ++ y) = f x ++ f y) : ∀ {items : List String},
    (∀ i ∈ items, f i = [i]) → f (" ".intercalate items) = items
  | [], _ => by rw [String.intercalate_nil, hempty]
  | [i], h => by
    rw [String.intercalate_singleton]
    exact h i List.mem_cons_self
  | i :: j :: items, h => by
    obtain ⟨hi, hitems⟩ := List.forall_mem_cons.1 h
    rw [String.intercalate_cons_cons, happend, hi, read_intercalate hempty happend hitems,
      List.singleton_append]

end DocSearch.Text
