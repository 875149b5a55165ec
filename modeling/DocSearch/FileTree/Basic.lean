/-
A tree of files and directories: looking paths up, reading, listing, and the changes that saving a
file makes. Every change gives a new tree, so what a failed command leaves behind is a value too.
-/
import Std.Data.ExtTreeMap
import DocSearch.FileTree.Path

namespace DocSearch

/-- Why a file cannot be used. -/
inductive IoCause where
  | notFound
  | alreadyExists
  | notDirectory
  | isDirectory
  | notUtf8
  deriving DecidableEq, Repr

/-- The text of a cause. -/
def IoCause.text : IoCause → String
  | .notFound => "No such file or directory (os error 2)"
  | .alreadyExists => "File exists (os error 17)"
  | .notDirectory => "Not a directory (os error 20)"
  | .isDirectory => "Is a directory (os error 21)"
  | .notUtf8 => "stream did not contain valid UTF-8"

/-- What stands at a place of the tree. -/
inductive Node where
  | file (bytes : ByteArray)
  | directory

/-- Files and directories by their components from the root, and the directory that relative paths
start from. The root is a directory without being listed. -/
structure FileTree where
  nodes : Std.ExtTreeMap (List String) Node
  workDir : List String

namespace FileTree

/-- The tree without files. -/
def empty : FileTree := ⟨∅, []⟩

/-- What stands at a place. -/
def node? (t : FileTree) (place : List String) : Option Node :=
  if place.isEmpty then some .directory else t.nodes[place]?

/-- Requires a directory at a place. -/
def requireDirectory (t : FileTree) (place : List String) : Except IoCause Unit :=
  match t.node? place with
  | some .directory => .ok ()
  | some (.file _) => .error .notDirectory
  | none => .error .notFound

/-- Follows the parts of a path from a place. Whatever is followed further must be a directory; the
last component need not exist. -/
def follow (t : FileTree) (place : List String) : List String → Except IoCause (List String)
  | [] => .ok place
  | part :: rest => do
    t.requireDirectory place
    if Path.isVoid part then t.follow place rest
    else if part = ".." then t.follow place.dropLast rest
    else t.follow (place ++ [part]) rest

/-- The place that a path names. -/
def resolve (t : FileTree) (p : Path) : Except IoCause (List String) :=
  if p.text.isEmpty then .error .notFound
  else t.follow (if p.isAbsolute then [] else t.workDir) p.parts

/-- What a path names. -/
def lookup (t : FileTree) (p : Path) : Except IoCause Node := do
  match t.node? (← t.resolve p) with
  | some n => .ok n
  | none => .error .notFound

/-- Whether a path names a file or a directory. -/
def exists? (t : FileTree) (p : Path) : Bool :=
  match t.lookup p with
  | .ok _ => true
  | .error _ => false

/-- The bytes of a file. -/
def read (t : FileTree) (p : Path) : Except IoCause ByteArray := do
  match ← t.lookup p with
  | .file bytes => .ok bytes
  | .directory => .error .isDirectory

/-- The place of a path that names something. -/
def canonical? (t : FileTree) (p : Path) : Option (List String) :=
  match t.resolve p with
  | .ok place => if (t.node? place).isSome then some place else none
  | .error _ => none

/-- The names directly below a place, ascending. -/
def children (t : FileTree) (place : List String) : List (String × Node) :=
  t.nodes.toList.filterMap fun (key, n) =>
    match key.reverse with
    | name :: above => if above.reverse = place then some (name, n) else none
    | [] => none

/-- The names in a directory, ascending. -/
def listDirectory (t : FileTree) (p : Path) : Except IoCause (List (String × Node)) := do
  let place ← t.resolve p
  t.requireDirectory place
  .ok (t.children place)

/-! ## Changes -/

/-- A place and all places above it but the root, outermost first. -/
def lineage (place : List String) : List (List String) :=
  (List.range place.length).map fun n => place.take (n + 1)

/-- Puts a directory at a place and at all places above it. -/
def putDirectory (t : FileTree) (place : List String) : FileTree :=
  { t with nodes := (lineage place).foldl (fun m above => m.insertIfNew above .directory) t.nodes }

/-- Puts a file at a place. -/
def putFile (t : FileTree) (place : List String) (bytes : ByteArray) : FileTree :=
  { t with nodes := t.nodes.insert place (.file bytes) }

/-- The place that a path would name if all its directories were there. -/
def intended (t : FileTree) (p : Path) : List String :=
  p.components.foldl (fun place part => if part = ".." then place.dropLast else place ++ [part])
    (if p.isAbsolute then [] else t.workDir)

/-- Whether a path names a directory. -/
def isDirectory (t : FileTree) (p : Path) : Bool :=
  match t.lookup p with
  | .ok .directory => true
  | _ => false

/-- Makes one directory, below one that is there. Dots are never free for it. -/
def makeDirectory (t : FileTree) (p : Path) : Except IoCause FileTree := do
  match p.parts.reverse.dropWhile (· = "") with
  | [] => .error (if p.isAbsolute then .alreadyExists else .notFound)
  | name :: above =>
    let place ← t.follow (if p.isAbsolute then [] else t.workDir) above.reverse
    t.requireDirectory place
    if name = "." ∨ name = ".." ∨ (t.node? (place ++ [name])).isSome then .error .alreadyExists
    else .ok (t.putDirectory (place ++ [name]))

/-- Makes the first of the paths, each of which lies below the next. Where the one above is not
there, that one is made before; what was made stays even if this fails. -/
def makeChain (t : FileTree) : List Path → Except IoCause Unit × FileTree
  | [] => (.ok (), t)
  | p :: above =>
    let make (t : FileTree) : Except IoCause Unit × FileTree :=
      match t.makeDirectory p with
      | .ok t => (.ok (), t)
      | .error e => (if t.isDirectory p then .ok () else .error e, t)
    match t.makeDirectory p with
    | .error .notFound =>
      match t.makeChain above with
      | (.ok (), t) => make t
      | failed => failed
    | _ => make t

/-- Makes a directory and those above it. -/
def createDirectories (t : FileTree) (p : Path) : Except IoCause Unit × FileTree :=
  t.makeChain p.ancestors

/-- Writes a file in place of what it held; its directory must be there. -/
def write (t : FileTree) (p : Path) (bytes : ByteArray) : Except IoCause FileTree := do
  let place ← t.resolve p
  match t.node? place with
  | some .directory => .error .isDirectory
  | _ => .ok (t.putFile place bytes)

end FileTree

end DocSearch
