/-
The manifest of a snapshot, and the ways in which its text can be unusable.
-/
namespace DocSearch

/-- What a snapshot says of itself. -/
structure Manifest where
  numDocs : UInt32
  createdAt : String
  version : UInt32
  deriving DecidableEq, Repr

/-- Why a manifest cannot be read: the first fault met in its bytes. -/
inductive Manifest.Fault where
  /-- The bytes are not JSON. -/
  | malformed
  /-- A well-formed value is of the wrong kind or range, or a field is missing or repeated. -/
  | mismatch
  /-- The text ends too early. -/
  | truncated
  /-- The file cannot be read. -/
  | unreadable
  deriving DecidableEq, Repr

end DocSearch
