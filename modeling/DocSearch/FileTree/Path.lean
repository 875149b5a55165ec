/-
Paths as they are written. A message shows a path in the form in which it was put together, so the
text is kept; what it names is found by its components.
-/
namespace DocSearch

/-- A path as written, with `/` between its components. -/
structure Path where
  text : String
  deriving DecidableEq, Repr

namespace Path

/-- The path of `name` below `p`. A name that starts with `/` stands for itself. -/
def join (p : Path) (name : String) : Path :=
  if name.startsWith "/" then ⟨name⟩
  else if p.text.isEmpty || p.text.endsWith "/" then ⟨p.text ++ name⟩
  else ⟨p.text ++ "/" ++ name⟩

/-- The parts between the slashes, empty ones included. -/
def parts (p : Path) : List String := (p.text.toList.splitOn '/').map .ofList

/-- Whether the path starts at the root. -/
def isAbsolute (p : Path) : Bool := p.text.startsWith "/"

/-- Whether a part names nothing: it is empty or a single dot. -/
def isVoid (part : String) : Bool := part = "" || part = "."

/-- The components that name something. -/
def components (p : Path) : List String := p.parts.filter (!isVoid ·)

/-- The last component, or the whole text if there is none. -/
def fileName (p : Path) : String := p.components.getLast?.getD p.text

/-- The path with its last component and the void parts before it taken off; a path without
components has no parent. -/
def parent? (p : Path) : Option Path :=
  let kept := (p.parts.reverse.dropWhile isVoid).tail.dropWhile isVoid
  if p.components.isEmpty then none
  else if kept.isEmpty then some ⟨if p.isAbsolute then "/" else ""⟩
  else some ⟨"/".intercalate kept.reverse⟩

/-- A path and up to `n - 1` paths above it. -/
def chain : Nat → Path → List Path
  | 0, _ => []
  | n + 1, p => p :: (p.parent?.map (chain n)).getD []

/-- A path and the paths above it that have components. -/
def ancestors (p : Path) : List Path := chain p.components.length p

end Path

end DocSearch
