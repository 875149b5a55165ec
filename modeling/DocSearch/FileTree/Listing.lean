/-
The files that a directory lists. A path that names a file lists that file alone, and one that
names nothing lists no files.
-/
import DocSearch.FileTree.Basic

namespace DocSearch

/-- A file as a listing shows it. -/
structure ListedFile where
  path : Path
  name : String
  bytes : ByteArray

/-- The files at or directly below a path. -/
def FileTree.filesAt (t : FileTree) (p : Path) : List ListedFile :=
  match t.lookup p with
  | .error _ => []
  | .ok (.file bytes) => [⟨p, p.fileName, bytes⟩]
  | .ok .directory =>
    match t.listDirectory p with
    | .error _ => []
    | .ok entries => entries.filterMap fun (name, n) =>
      match n with
      | .file bytes => some ⟨p.join name, name, bytes⟩
      | .directory => none

end DocSearch
