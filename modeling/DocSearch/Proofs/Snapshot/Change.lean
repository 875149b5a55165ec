/-
Runs of changes that succeed: what each step of a command has done, read off backwards from the
tree that it left. A text that was saved is the text that is read.
-/
import DocSearch.Proofs.FileTree.Write
import DocSearch.Proofs.Text.Utf8
import DocSearch.Snapshot.Load
import DocSearch.Snapshot.Save

namespace DocSearch

theorem exists_eq_ok_of_any {ε β : Type} {r : Except ε β} {P : β → Bool}
    (h : r.toOption.any P = true) : ∃ b, r = .ok b ∧ P b = true := by
  cases r with
  | error e => cases h
  | ok b => exact ⟨b, rfl, h⟩

namespace Change

variable {ε ε' β γ : Type} {t t' : FileTree}

/-- Whether a change succeeds on a tree, with the given result and tree. -/
def Yields (c : Change ε β) (t : FileTree) (b : β) (t' : FileTree) : Prop :=
  (c t : Except ε β × FileTree) = (.ok b, t')

theorem yields_of_isOk {c : Change ε Unit} (h : (c t : Except ε Unit × FileTree).1.isOk) :
    c.Yields t () (c t : Except ε Unit × FileTree).2 := by
  unfold Yields
  generalize (c t : Except ε Unit × FileTree) = r at h ⊢
  obtain ⟨e | u, s⟩ := r
  · cases h
  · rfl

/-! ## Successful steps -/

theorem yields_pure {a b : β} : (pure a : Change ε β).Yields t b t' ↔ a = b ∧ t = t' := by
  unfold Yields
  change ((.ok a, t) : Except ε β × FileTree) = (.ok b, t') ↔ _
  rw [Prod.mk.injEq, Except.ok.injEq]

theorem yields_bind {c : Change ε β} {f : β → Change ε γ} {b : γ} :
    (c >>= f).Yields t b t' ↔ ∃ a s, c.Yields t a s ∧ (f a).Yields s b t' := by
  unfold Yields
  change (ExceptT.bindCont f (c t : Except ε β × FileTree).1 (c t : Except ε β × FileTree).2 :
    Except ε γ × FileTree) = _ ↔ _
  obtain ⟨e | a, s⟩ := (c t : Except ε β × FileTree)
  · constructor
    · rintro ⟨⟩
    · rintro ⟨a, s, ⟨⟩, -⟩
  · constructor
    · intro h; exact ⟨a, s, rfl, h⟩
    · rintro ⟨a, s, ⟨⟩, h⟩; exact h

theorem yields_query {look : FileTree → Except ε β} {b : β} :
    (query look).Yields t b t' ↔ look t = .ok b ∧ t' = t := by
  unfold Yields query
  rw [Prod.mk.injEq, eq_comm (a := t)]

theorem yields_attempt {step : FileTree → Except ε FileTree} {u : Unit} :
    (attempt step).Yields t u t' ↔ step t = .ok t' := by
  unfold Yields attempt
  cases step t with
  | error e => constructor <;> rintro ⟨⟩
  | ok s => rw [Prod.mk.injEq, Except.ok.injEq, Except.ok.injEq]; exact and_iff_right rfl

theorem except_mapError_eq_ok_iff {r : Except ε β} {f : ε → ε'} {b : β} :
    r.mapError f = .ok b ↔ r = .ok b := by
  cases r with
  | error e => constructor <;> rintro ⟨⟩
  | ok a => constructor <;> rintro ⟨⟩ <;> rfl

theorem yields_mapError {f : ε → ε'} {c : Change ε β} {b : β} :
    (mapError f c).Yields t b t' ↔ c.Yields t b t' := by
  unfold Yields
  change (((c t : Except ε β × FileTree).1.mapError f, (c t : Except ε β × FileTree).2) :
    Except ε' β × FileTree) = (.ok b, t') ↔ _
  obtain ⟨r, s⟩ := (c t : Except ε β × FileTree)
  rw [Prod.mk.injEq, except_mapError_eq_ok_iff, ← Prod.mk.injEq]

/-! ## Failed steps -/

/-- Whether a change fails on a tree, with the given failure, and leaves the given tree. -/
def Fails (c : Change ε β) (t : FileTree) (e : ε) (t' : FileTree) : Prop :=
  (c t : Except ε β × FileTree) = (.error e, t')

theorem not_fails_pure {a : β} {e : ε} : ¬(pure a : Change ε β).Fails t e t' := by
  rintro ⟨⟩

theorem fails_bind {c : Change ε β} {f : β → Change ε γ} {e : ε} : (c >>= f).Fails t e t' ↔
    c.Fails t e t' ∨ ∃ a s, c.Yields t a s ∧ (f a).Fails s e t' := by
  unfold Fails Yields
  change (ExceptT.bindCont f (c t : Except ε β × FileTree).1 (c t : Except ε β × FileTree).2 :
    Except ε γ × FileTree) = _ ↔ _
  obtain ⟨e₀ | a, s⟩ := (c t : Except ε β × FileTree)
  · constructor
    · rintro ⟨⟩; exact .inl rfl
    · rintro (⟨⟨⟩⟩ | ⟨a, s, ⟨⟩, -⟩); rfl
  · constructor
    · intro h; exact .inr ⟨a, s, rfl, h⟩
    · rintro (⟨⟨⟩⟩ | ⟨a, s, ⟨⟩, h⟩); exact h

theorem fails_query {look : FileTree → Except ε β} {e : ε} :
    (query look).Fails t e t' ↔ look t = .error e ∧ t' = t := by
  unfold Fails query
  rw [Prod.mk.injEq, eq_comm (a := t)]

theorem fails_attempt {step : FileTree → Except ε FileTree} {e : ε} :
    (attempt step).Fails t e t' ↔ step t = .error e ∧ t' = t := by
  unfold Fails attempt
  cases step t with
  | error e₀ => rw [Prod.mk.injEq, Except.error.injEq, Except.error.injEq, eq_comm (a := t)]
  | ok s => constructor <;> rintro ⟨⟨⟩⟩

theorem except_mapError_eq_error_iff {r : Except ε β} {f : ε → ε'} {e : ε'} :
    r.mapError f = .error e ↔ ∃ e₀, r = .error e₀ ∧ f e₀ = e := by
  cases r with
  | error e₀ =>
    constructor
    · rintro ⟨⟩; exact ⟨e₀, rfl, rfl⟩
    · rintro ⟨e₁, ⟨⟩, rfl⟩; rfl
  | ok a =>
    constructor
    · rintro ⟨⟩
    · rintro ⟨e₀, ⟨⟩, -⟩

theorem fails_mapError {f : ε → ε'} {c : Change ε β} {e : ε'} :
    (mapError f c).Fails t e t' ↔ ∃ e₀, c.Fails t e₀ t' ∧ f e₀ = e := by
  unfold Fails
  change (((c t : Except ε β × FileTree).1.mapError f, (c t : Except ε β × FileTree).2) :
    Except ε' β × FileTree) = (.error e, t') ↔ _
  obtain ⟨r, s⟩ := (c t : Except ε β × FileTree)
  rw [Prod.mk.injEq, except_mapError_eq_error_iff]
  constructor
  · rintro ⟨⟨e₀, rfl, he⟩, rfl⟩; exact ⟨e₀, rfl, he⟩
  · rintro ⟨e₀, ⟨⟩, he⟩; exact ⟨⟨e₀, rfl, he⟩, rfl⟩

/-! ## Saved texts -/

/-- A text is saved by making the directories of its file, if it is in any, and writing it. -/
theorem yields_saveText {p : Path} {text : String} {u : Unit} :
    (saveText p text).Yields t u t' ↔ ∃ s,
      (∀ dir, p.parent? = some dir → t.createDirectories dir = (.ok (), s)) ∧
        (p.parent? = none → s = t) ∧ s.write p text.toUTF8 = .ok t' := by
  have hwrite : ∀ s, (attempt fun t => (t.write p text.toUTF8).mapError (LoadError.file p)).Yields s u t' ↔
      s.write p text.toUTF8 = .ok t' := fun s => by
    rw [yields_attempt, except_mapError_eq_ok_iff]
  unfold saveText
  cases p.parent? with
  | none =>
    constructor
    · intro h; exact ⟨t, nofun, fun _ => rfl, (hwrite t).1 h⟩
    · rintro ⟨s, -, hs, h⟩; exact (hwrite t).2 (hs rfl ▸ h)
  | some dir =>
    rw [yields_bind]
    simp only [yields_mapError, hwrite]
    constructor
    · rintro ⟨⟨⟩, s, hs, h⟩; exact ⟨s, fun _ hd => Option.some.inj hd ▸ hs, nofun, h⟩
    · rintro ⟨s, hs, -, h⟩; exact ⟨(), s, hs dir rfl, h⟩

/-- Saving a text fails over its file or over the directory of the file. -/
theorem exists_of_fails_saveText {p : Path} {text : String} {e : LoadError}
    (h : (saveText p text).Fails t e t') :
    ∃ q cause, (q = p ∨ p.parent? = some q) ∧ e = .file q cause := by
  have hwrite : ∀ {s}, (attempt fun t => (t.write p text.toUTF8).mapError (LoadError.file p)).Fails s e t' →
      ∃ cause, e = .file p cause := fun hs => by
    obtain ⟨cause, -, he⟩ := except_mapError_eq_error_iff.1 (fails_attempt.1 hs).1
    exact ⟨cause, he.symm⟩
  unfold saveText at h
  cases hdir : p.parent? with
  | none =>
    rw [hdir] at h
    obtain ⟨cause, he⟩ := hwrite h
    exact ⟨p, cause, .inl rfl, he⟩
  | some dir =>
    rw [hdir] at h
    obtain hmake | ⟨_, s, -, hs⟩ := fails_bind.1 h
    · obtain ⟨cause, -, he⟩ := fails_mapError.1 hmake
      exact ⟨dir, cause, .inr rfl, he.symm⟩
    · obtain ⟨cause, he⟩ := hwrite hs
      exact ⟨p, cause, .inl rfl, he⟩

end Change

namespace FileTree

theorem readText_eq_ok_iff {t : FileTree} {p : Path} {s : String} :
    t.readText p = .ok s ↔ t.read p = .ok s.toUTF8 := by
  unfold readText
  cases t.read p with
  | error e => constructor <;> rintro ⟨⟩
  | ok bytes =>
    have hbytes : (Except.ok bytes).mapError (LoadError.file p) = .ok bytes := rfl
    rw [hbytes, Except.ok.injEq, ← Text.decode?_eq_some_iff]
    simp only [bind, Except.bind]
    cases Text.decode? bytes with
    | none => constructor <;> rintro ⟨⟩
    | some s' => rw [Except.ok.injEq, Option.some.injEq]

/-- A file that is not UTF-8 is not read. -/
theorem readText_eq_error {t : FileTree} {p : Path} {bytes : ByteArray} (hread : t.read p = .ok bytes)
    (h : ¬ bytes.IsValidUTF8) : t.readText p = .error (.file p .notUtf8) := by
  have hbytes : (Except.ok bytes).mapError (LoadError.file p) = .ok bytes := rfl
  unfold readText
  rw [hread, hbytes]
  simp only [bind, Except.bind, Text.decode?_eq_none_iff.2 h]

theorem readText_saveText {t t' : FileTree} {p : Path} {text : String} {u : Unit}
    (h : (Change.saveText p text).Yields t u t') : t'.readText p = .ok text := by
  obtain ⟨s, -, -, hwrite⟩ := Change.yields_saveText.1 h
  exact readText_eq_ok_iff.2 (read_write hwrite)

end FileTree

namespace Snapshot

/-- An index is loaded from the text that saving it has left. -/
theorem loadIndex_saveIndex {s : Snapshot} {p : Postings} {t t' : FileTree} {u : Unit}
    (h : (s.saveIndex p).Yields t u t') : s.loadIndex t' = .ok (Postings.ofText p.text) := by
  unfold loadIndex
  rw [FileTree.readText_saveText h]
  rfl

end Snapshot

end DocSearch
