/-
Reading a manifest: a JSON object with three fields in any order, among fields that are ignored, or
an array of the three values in order. Nothing but blanks may follow.
-/
import DocSearch.Manifest.Json

namespace DocSearch.Manifest

/-- The fault of a value that starts with `b` and is of the wrong kind: its own fault if it is not
well formed where the kind shows, a mismatch otherwise. -/
def wrongKind (b : UInt8) (s : Input) : Fault :=
  let after {β : Type} (r : Except Fault β) : Fault := match r with
    | .error f => f
    | .ok _ => .mismatch
  if b = byte 'n' then after (literal ['u', 'l', 'l'] s)
  else if b = byte 't' then after (literal ['r', 'u', 'e'] s)
  else if b = byte 'f' then after (literal ['a', 'l', 's', 'e'] s)
  else if b = byte '-' ∨ isDigit b then after (readNumber (b :: s))
  else if b = byte '"' then after (readString s)
  else if b = byte '[' ∨ b = openBrace then .mismatch
  else .malformed

/-- Reads a whole number below 2^32. -/
def readCount (s : Input) : Except Fault (UInt32 × Input) :=
  match skipBlanks s with
  | [] => .error .truncated
  | b :: s =>
    if b = byte '-' ∨ isDigit b then do
      let (n, s) ← readNumber (b :: s)
      match n.natural? with
      | some v => if v < UInt32.size then .ok (.ofNat v, s) else .error .mismatch
      | none => .error .mismatch
    else .error (wrongKind b s)

/-- Reads a string value. -/
def readText (s : Input) : Except Fault (String × Input) :=
  match skipBlanks s with
  | [] => .error .truncated
  | b :: s => if b = byte '"' then readString s else .error (wrongKind b s)

/-! ## The object form -/

/-- The fields read so far. -/
structure Partial where
  numDocs : Option UInt32
  createdAt : Option String
  version : Option UInt32

/-- The manifest, once no field is missing. -/
def Partial.complete (p : Partial) : Except Fault Manifest :=
  match p.numDocs, p.createdAt, p.version with
  | some n, some c, some v => .ok ⟨n, c, v⟩
  | _, _, _ => .error .mismatch

/-- Reads the value of a field. A repeated field is a fault before its value is looked at, and a
field of another name is passed over. -/
def readField (p : Partial) (name : String) (s : Input) : Except Fault (Partial × Input) :=
  if name = "num_docs" then
    if p.numDocs.isSome then .error .mismatch
    else do
      let (v, s) ← readCount (← colon s)
      .ok ({ p with numDocs := some v }, s)
  else if name = "created_at" then
    if p.createdAt.isSome then .error .mismatch
    else do
      let (v, s) ← readText (← colon s)
      .ok ({ p with createdAt := some v }, s)
  else if name = "version" then
    if p.version.isSome then .error .mismatch
    else do
      let (v, s) ← readCount (← colon s)
      .ok ({ p with version := some v }, s)
  else do .ok (p, ← skipValue (← colon s))

/-- Reads the fields of an object up to its end. The fuel is the number of bytes that are left. -/
def readFields (first : Bool) (p : Partial) : Nat → Input → Except Fault (Manifest × Input)
  | 0, _ => .error .truncated
  | fuel + 1, s =>
    let named (s : Input) : Except Fault (Manifest × Input) := do
      let (name, s) ← readString s
      let (p, s) ← readField p name s
      readFields false p fuel s
    match skipBlanks s with
    | [] => .error .truncated
    | b :: s =>
      if b = closeBrace then p.complete.map (·, s)
      else if first then if b = byte '"' then named s else .error .malformed
      else if b = byte ',' then
        match skipBlanks s with
        | [] => .error .truncated
        | b :: s => if b = byte '"' then named s else .error .malformed
      else .error .malformed

/-! ## The array form -/

/-- Goes to the next element of an array; an end in its place is a mismatch, but after a comma it
is no JSON. -/
def nextElement (first : Bool) (s : Input) : Except Fault Input :=
  match skipBlanks s with
  | [] => .error .truncated
  | b :: s =>
    if b = byte ']' then .error .mismatch
    else if first then .ok (b :: s)
    else if b = byte ',' then
      match skipBlanks s with
      | [] => .error .truncated
      | b :: s => if b = byte ']' then .error .malformed else .ok (b :: s)
    else .error .malformed

/-- Reads the three elements of an array and its end. -/
def readElements (s : Input) : Except Fault (Manifest × Input) := do
  let (n, s) ← readCount (← nextElement true s)
  let (c, s) ← readText (← nextElement false s)
  let (v, s) ← readCount (← nextElement false s)
  match skipBlanks s with
  | [] => .error .truncated
  | b :: s => if b = byte ']' then .ok (⟨n, c, v⟩, s) else .error .malformed

/-- Reads a manifest at the start of a text. -/
def readValue (s : Input) : Except Fault (Manifest × Input) :=
  match skipBlanks s with
  | [] => .error .truncated
  | b :: s =>
    if b = byte '[' then readElements s
    else if b = openBrace then readFields true ⟨none, none, none⟩ (s.length + 1) s
    else .error (wrongKind b s)

/-- Reads a manifest. -/
def ofBytes (bytes : ByteArray) : Except Fault Manifest := do
  let (m, s) ← readValue bytes.data.toList
  if (skipBlanks s).isEmpty then .ok m else .error .malformed

end DocSearch.Manifest
