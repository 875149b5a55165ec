/-
Addresses of documents. Two addresses are equal when their parts are, and the parts are kept in a
normal form: lowercase scheme and host, no default port, no dot segments, escapes where needed.
-/
namespace DocSearch

/-- The host of an address. -/
inductive Url.Host where
  /-- A name; the empty name stands for no host. -/
  | name (s : String)
  | ipv4 (address : Nat)
  /-- The eight pieces of an address of the sixth version. -/
  | ipv6 (pieces : List Nat)
  deriving DecidableEq, Repr

/-- What stands between the two slashes and the path. -/
structure Url.Authority where
  username : String
  password : String
  host : Url.Host
  port : Option Nat
  deriving DecidableEq, Repr

/-- The path of an address: segments with a slash before each, or a text that nothing can be
resolved against. -/
inductive Url.Location where
  | segments (text : List Char)
  | plain (text : String)
  deriving DecidableEq, Repr

/-- An address. -/
structure Url where
  scheme : String
  authority : Option Url.Authority
  path : Url.Location
  query : Option String
  fragment : Option String
  deriving DecidableEq, Repr

namespace Url

/-- The schemes that name a host and a path of segments. -/
inductive SchemeKind where
  | file
  | network
  | other
  deriving DecidableEq, Repr

/-- The port that a scheme uses unless another is given. -/
def defaultPort? (scheme : String) : Option Nat :=
  if scheme = "http" ∨ scheme = "ws" then some 80
  else if scheme = "https" ∨ scheme = "wss" then some 443
  else if scheme = "ftp" then some 21
  else none

/-- The kind of a scheme. -/
def kindOf (scheme : String) : SchemeKind :=
  if scheme = "file" then .file
  else if (defaultPort? scheme).isSome then .network
  else .other

/-- Whether a scheme is one of those whose addresses have a normal form of their own. -/
def SchemeKind.isSpecial (k : SchemeKind) : Bool := k != .other

/-- Whether nothing can be resolved against an address. -/
def isPlain (u : Url) : Bool := match u.path with
  | .plain _ => true
  | .segments _ => false

/-- The segments of the path as they are written. -/
def pathText (u : Url) : List Char := match u.path with
  | .segments text => text
  | .plain _ => []

/-- Drops the spaces at the end of a text. -/
def dropSpacesRight (s : String) : String :=
  .ofList ((s.toList.reverse.dropWhile (· = ' ')).reverse)

/-- The address without its fragment. A plain path that becomes the end of the address loses the
spaces at its end. -/
def withoutFragment (u : Url) : Url :=
  let path := match u.path, u.query with
    | .plain text, none => .plain (dropSpacesRight text)
    | path, _ => path
  { u with path := path, fragment := none }

end Url

end DocSearch
