/-
The composed normal form of a text: marks stand in one order, and a character and its marks are
written as one character where there is one. Texts that look the same are then the same.
-/
import DocSearch.Text.Normal.Classes
import DocSearch.Text.Normal.Pairs

namespace DocSearch.Text.Normal

/-! ## Pairs -/

/-- The two parts of a syllable of the Korean script: a syllable without an end and its end, or a
lead and a vowel. -/
def syllableParts? (n : Nat) : Option (Nat × Nat) :=
  if n < 0xAC00 ∨ 0xD7A3 < n then none
  else
    let s := n - 0xAC00
    if s % 28 = 0 then some (0x1100 + s / 588, 0x1161 + s % 588 / 28)
    else some (n - s % 28, 0x11A7 + s % 28)

/-- The syllable that two parts make. -/
def syllable? (a b : Nat) : Option Nat :=
  if 0x1100 ≤ a ∧ a < 0x1113 ∧ 0x1161 ≤ b ∧ b < 0x1176 then
    some (0xAC00 + (a - 0x1100) * 588 + (b - 0x1161) * 28)
  else if 0xAC00 ≤ a ∧ a ≤ 0xD7A3 ∧ (a - 0xAC00) % 28 = 0 ∧ 0x11A7 < b ∧ b < 0x11C3 then
    some (a + (b - 0x11A7))
  else none

/-- The two parts of a composed character. -/
def parts? (n : Nat) : Option (Nat × Nat) :=
  (syllableParts? n).or (match (pairTable.run? n).map (·.values) with
    | some [a, b] => some (a, b)
    | _ => none)

/-- The character that is written for two others. -/
def pair? (a b : Nat) : Option Nat :=
  (syllable? a b).or ((pairTable.find? fun (r : Run) => r.values = [a, b]).map (·.first))

/-- The combining class of a character. -/
def markClass (c : Char) : Nat := ((classTable.run? c.toNat).bind (·.values.head?)).getD 0

/-! ## Taking apart, ordering and putting together -/

/-- Splits a code point, and its first part again, at most as often as `steps` says. -/
def split : (steps : Nat) → Nat → List Nat
  | 0, n => [n]
  | steps + 1, n => match parts? n with
    | some (a, b) => split steps a ++ [b]
    | none => [n]

/-- The parts of a character; none can be split more than three times. -/
def partsOf (c : Char) : List Char := (split 3 c.toNat).map Char.ofNat

/-- Puts a character in front of an ordered text; it moves behind marks of lower classes. -/
def insertMark (c : Char) : List Char → List Char
  | [] => [c]
  | d :: rest =>
    if markClass d ≠ 0 ∧ markClass d < markClass c then d :: insertMark c rest else c :: d :: rest

/-- Puts marks that follow the same character in the order of their classes. -/
def orderMarks (cs : List Char) : List Char := cs.foldr insertMark []

/-- Puts characters together. `start` is the last character of class zero and `between` what
follows it so far, the nearest first; a mark reaches `start` if none between has its class or a
higher one. -/
def compose (start : Option Char) (between : List Char) : List Char → List Char
  | [] => start.toList ++ between.reverse
  | c :: rest => match start with
    | none => if markClass c = 0 then compose (some c) [] rest else c :: compose none [] rest
    | some s =>
      let reaches := between.head?.all (markClass · < markClass c)
      match if reaches then pair? s.toNat c.toNat else none with
      | some n => compose (some (.ofNat n)) between rest
      | none =>
        if markClass c = 0 then s :: between.reverse ++ compose (some c) [] rest
        else compose start (c :: between) rest

/-- The composed normal form of a text. -/
def form (cs : List Char) : List Char := compose none [] (orderMarks (cs.flatMap partsOf))

end DocSearch.Text.Normal
