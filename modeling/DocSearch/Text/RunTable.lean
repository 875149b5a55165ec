/-
Tables that give short lists of numbers to code points. A table is written as lines of text, because
the data of a standard is too long for a term: each word names a run of code points by how far it is
from the one before it, and the numbers that belong to it.
-/
namespace DocSearch.Text

/-- The code points from `first` to `last` and the numbers given to them. -/
structure Run where
  first : Nat
  last : Nat
  values : List Nat
  deriving DecidableEq, Repr

/-- The numbers of one code point of a run: a single number moves along with the code point. -/
def Run.image (r : Run) (n : Nat) : List Nat := match r.values with
  | [v] => [v + (n - r.first)]
  | vs => vs

/-- Runs in ascending order and apart from each other. -/
abbrev RunTable := List Run

namespace RunTable

/-! ## Reading -/

/-- The value of a digit: the letters follow the ten digits. -/
def digitValue (c : Char) : Nat := if c.isDigit then c.toNat - 48 else c.toNat - 87

/-- The number that digits to the base 36 write. -/
def number (cs : List Char) : Nat := cs.foldl (fun n c => 36 * n + digitValue c) 0

/-- Reads one run. `gap-more:a.b` leaves out `gap` code points from `next` on, has `more` beyond
its first one, and the numbers `a` and `b`. -/
def readRun (next : Nat) (word : List Char) : Run :=
  let place := (word.takeWhile (· != ':')).splitOn '-'
  let values := (word.dropWhile (· != ':')).drop 1
  let first := next + number (place.headD [])
  ⟨first, first + number (place.getD 1 []),
    if values.isEmpty then [] else (values.splitOn '.').map number⟩

/-- Reads runs of which the first starts at `next` or later. -/
def readFrom (next : Nat) : List (List Char) → RunTable
  | [] => []
  | word :: rest => readRun next word :: readFrom ((readRun next word).last + 1) rest

/-- Reads a table whose runs are parted by spaces and line ends. -/
def ofLines (lines : List String) : RunTable :=
  readFrom 0 (lines.flatMap fun line => line.toList.splitOn ' ')

/-! ## Looking up -/

/-- The run that holds a code point. The search stops at the first run that ends at or after it. -/
def run? : RunTable → Nat → Option Run
  | [], _ => none
  | r :: rest, n => if n ≤ r.last then if r.first ≤ n then some r else none else run? rest n

end RunTable

end DocSearch.Text
