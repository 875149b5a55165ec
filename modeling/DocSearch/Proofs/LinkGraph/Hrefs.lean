/-
The anchors of a page. The first anchor is where the text that begins an anchor stands first, up to
the next quote; the others are those of what follows that quote. What is found are the addresses
between the quotes of these anchors. The number of a page is the first run of digits in its name.
-/
import DocSearch.Anchors
import DocSearch.Proofs.Text.Lines
import DocSearch.Proofs.Text.Numeral

namespace DocSearch.Anchors

open Text

/-! ## Anchors -/

/-- Whether an address stands in the first anchor of a page, with a text behind its quote. -/
def IsFirstAnchor (html href after : List Char) : Prop :=
  ∃ before, html = before ++ opening ++ href ++ '"' :: after ∧ '"' ∉ href ∧
    ∀ before' rest, html = before' ++ opening ++ rest → before.length ≤ before'.length

/-- Whether an address stands in an anchor of a page. -/
inductive HasHref : List Char → List Char → Prop where
  | first {html href after : List Char} (h : IsFirstAnchor html href after) : HasHref html href
  | later {html href' after href : List Char} (h : IsFirstAnchor html href' after)
      (hrest : HasHref after href) : HasHref html href

variable {html href after body : List Char} {c : Char} {cs : List Char}

theorem hasHref_iff : HasHref html href ↔ ∃ href' after, IsFirstAnchor html href' after ∧
    (href = href' ∨ HasHref after href) := by
  constructor
  · intro h
    cases h with
    | first h => exact ⟨href, _, h, .inl rfl⟩
    | later h hrest => exact ⟨_, _, h, .inr hrest⟩
  · rintro ⟨href', after, h, rfl | hrest⟩
    · exact .first h
    · exact .later h hrest

theorem not_isFirstAnchor_nil : ¬ IsFirstAnchor [] href after := by
  rintro ⟨before, h, -⟩
  cases (List.append_eq_nil_iff.1 h.symm).2

/-- Where an anchor begins, it goes up to the next quote. -/
theorem isFirstAnchor_opening :
    IsFirstAnchor (opening ++ body) href after ↔ splitOnce '"' body = some (href, after) := by
  rw [splitOnce_eq_some_iff]
  constructor
  · rintro ⟨before, h, hquote, hmin⟩
    have hnil : before = [] := List.length_eq_zero_iff.1 (Nat.le_zero.1 (hmin [] body rfl))
    rw [hnil, List.nil_append, List.append_assoc, List.append_cancel_left_eq] at h
    exact ⟨h, hquote⟩
  · rintro ⟨rfl, hquote⟩
    exact ⟨[], by rw [List.nil_append, List.append_assoc], hquote, fun _ _ _ => Nat.zero_le _⟩

/-- Where no anchor begins, the first anchor is that of the text from the next character on. -/
theorem isFirstAnchor_cons (h : ¬ opening <+: c :: cs) :
    IsFirstAnchor (c :: cs) href after ↔ IsFirstAnchor cs href after := by
  -- what stands before an anchor holds the first character
  have hbefore : ∀ before rest, c :: cs = before ++ opening ++ rest →
      ∃ before', before = c :: before' ∧ cs = before' ++ opening ++ rest := by
    intro before rest heq
    cases before with
    | nil => exact absurd ⟨rest, heq.symm⟩ h
    | cons b before =>
      obtain ⟨rfl, hcs⟩ := List.cons.inj heq
      exact ⟨before, rfl, hcs⟩
  constructor
  · rintro ⟨before, heq, hquote, hmin⟩
    rw [List.append_assoc _ href] at heq
    obtain ⟨before, rfl, hcs⟩ := hbefore before _ heq
    refine ⟨before, by rwa [List.append_assoc _ href], hquote, fun before' rest hrest => ?_⟩
    exact Nat.le_of_succ_le_succ (hmin (c :: before') rest (by rw [hrest]; rfl))
  · rintro ⟨before, rfl, hquote, hmin⟩
    refine ⟨c :: before, rfl, hquote, fun before' rest hrest => ?_⟩
    obtain ⟨before', rfl, hcs⟩ := hbefore before' rest hrest
    exact Nat.succ_le_succ (hmin before' rest hcs)

/-! ## Looking for anchors -/

theorem hrefsFrom_opening (found : List (List Char)) (fuel : Nat) (body : List Char) :
    hrefsFrom found (fuel + 1) (opening ++ body) = match splitOnce '"' body with
      | none => found.reverse
      | some (href, after) => hrefsFrom (href :: found) fuel after := by
  have hprefix : opening.isPrefixOf (opening ++ body) = true :=
    List.isPrefixOf_iff_prefix.2 (List.prefix_append opening body)
  have hdrop : (opening ++ body).drop opening.length = body := List.drop_left
  cases hcs : opening ++ body with
  | nil => cases (List.append_eq_nil_iff.1 hcs).1
  | cons c cs =>
    rw [hcs] at hprefix hdrop
    rw [hrefsFrom, if_pos hprefix]
    simp only [hdrop]
    unfold splitOnce
    cases body.dropWhile (· != '"') with
    | nil => rfl
    | cons quote after => rfl

theorem hrefsFrom_cons (found : List (List Char)) (fuel : Nat) (h : ¬ opening <+: c :: cs) :
    hrefsFrom found (fuel + 1) (c :: cs) = hrefsFrom found fuel cs := by
  rw [hrefsFrom, if_neg (mt List.isPrefixOf_iff_prefix.1 h)]

theorem not_hasHref_nil : ¬ HasHref [] href := by
  rw [hasHref_iff]
  rintro ⟨href', after, h, -⟩
  exact not_isFirstAnchor_nil h

theorem mem_hrefsFrom_nil {found : List (List Char)} (fuel : Nat) :
    href ∈ hrefsFrom found fuel [] ↔ href ∈ found ∨ HasHref [] href := by
  have hnil : hrefsFrom found fuel [] = found.reverse := by cases fuel <;> rfl
  rw [hnil, List.mem_reverse]
  exact (or_iff_left not_hasHref_nil).symm

/-- With fuel for every character, the addresses that are found are those of the anchors. -/
theorem mem_hrefsFrom {fuel : Nat} : ∀ {found : List (List Char)} {cs : List Char}, cs.length ≤ fuel →
    (href ∈ hrefsFrom found fuel cs ↔ href ∈ found ∨ HasHref cs href) := by
  induction fuel with
  | zero =>
    intro found cs hlen
    rw [List.length_eq_zero_iff.1 (Nat.le_zero.1 hlen)]
    exact mem_hrefsFrom_nil 0
  | succ fuel ih =>
    intro found cs hlen
    by_cases hprefix : opening <+: cs
    · obtain ⟨body, rfl⟩ := hprefix
      rw [hrefsFrom_opening, hasHref_iff]
      simp only [isFirstAnchor_opening]
      cases hsplit : splitOnce '"' body with
      | none => simp
      | some parts =>
        obtain ⟨href', after⟩ := parts
        obtain ⟨rfl, -⟩ := splitOnce_eq_some_iff.1 hsplit
        have hafter : after.length ≤ fuel := by
          simp only [List.length_append, List.length_cons] at hlen
          omega
        simp only [ih hafter, List.mem_cons, Option.some.injEq, Prod.mk.injEq]
        constructor
        · rintro ((rfl | hf) | hrest)
          · exact .inr ⟨_, _, ⟨rfl, rfl⟩, .inl rfl⟩
          · exact .inl hf
          · exact .inr ⟨_, _, ⟨rfl, rfl⟩, .inr hrest⟩
        · rintro (hf | ⟨_, _, ⟨rfl, rfl⟩, rfl | hrest⟩)
          · exact .inl (.inr hf)
          · exact .inl (.inl rfl)
          · exact .inr hrest
    · cases cs with
      | nil => exact mem_hrefsFrom_nil (fuel + 1)
      | cons c cs =>
        rw [hrefsFrom_cons found fuel hprefix, ih (Nat.le_of_succ_le_succ hlen), hasHref_iff,
          hasHref_iff]
        simp only [isFirstAnchor_cons hprefix]

theorem mem_hrefs : href ∈ hrefs html ↔ HasHref html href := by
  rw [hrefs, mem_hrefsFrom (Nat.le_refl _)]
  exact or_iff_right List.not_mem_nil

/-! ## Numbers of pages -/

/-- Whether the first run of digits in a name is the numeral of a document. -/
def IsFirstNumber (name : String) (d : DocId) : Prop :=
  ∃ before digits after, name.toList = before ++ digits ++ after ∧
    (∀ c ∈ before, isDecimalDigit c = false) ∧ (∀ c ∈ digits, isDecimalDigit c = true) ∧
    (∀ c, after.head? = some c → isDecimalDigit c = false) ∧ Numeral.Writes digits d.toNat

theorem pageDoc?_eq_some_iff {name : String} {d : DocId} :
    pageDoc? name = some d ↔ IsFirstNumber name d := by
  unfold pageDoc?
  rw [DocId.read?_eq_some_iff]
  constructor
  · intro h
    refine ⟨name.toList.takeWhile (!isDecimalDigit ·), _,
      (name.toList.dropWhile (!isDecimalDigit ·)).dropWhile isDecimalDigit, ?_, fun c hc => ?_,
      List.all_eq_true.1 List.all_takeWhile, fun c hc => ?_, h⟩
    · rw [List.append_assoc, List.takeWhile_append_dropWhile, List.takeWhile_append_dropWhile]
    · simpa using List.all_eq_true.1 List.all_takeWhile c hc
    · simpa [hc] using
        List.head?_dropWhile_not isDecimalDigit (name.toList.dropWhile (!isDecimalDigit ·))
  · rintro ⟨before, digits, after, hname, hbefore, hdigits, hafter, h⟩
    have hrun : name.toList.dropWhile (!isDecimalDigit ·) = digits ++ after := by
      rw [hname, List.append_assoc, List.dropWhile_append_of_pos fun c hc => by simp [hbefore c hc]]
      cases digits with
      | nil => exact absurd rfl h.ne_nil
      | cons c digits =>
        rw [List.cons_append, List.dropWhile_cons_of_neg (by simp [hdigits c List.mem_cons_self])]
    have hend : after.takeWhile isDecimalDigit = [] := by
      cases after with
      | nil => rfl
      | cons c after => rw [List.takeWhile_cons_of_neg (by simp [hafter c rfl])]
    rwa [hrun, List.takeWhile_append_of_pos hdigits, hend, List.append_nil]

end DocSearch.Anchors
