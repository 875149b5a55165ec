/-
The two programs, chosen by the first argument. The files that a command names are read before it
runs, and what it changed is written back; the work between is done on values.
-/
import DocSearch.CommandLine
import Std.Time.Format
import Std.Time.Zoned

namespace DocSearch.Shell

open CommandLine

/-! ## Files -/

/-- A place as the file system lists it. -/
def entryAt (place : List String) : IO.FS.DirEntry :=
  ⟨"/" ++ "/".intercalate place.dropLast, place.getLastD ""⟩

/-- Puts one place of the file system into a tree, without what is below it. -/
def readPlace (t : FileTree) (place : List String) : IO FileTree := do
  let path := (entryAt place).path
  if ← path.isDir then return t.putDirectory place
  else if ← path.pathExists then return t.putFile place (← IO.FS.readBinFile path)
  else return t

/-- Puts a place of the file system into a tree, with all that is below it. -/
partial def readBelow (t : FileTree) (place : List String) : IO FileTree := do
  let t ← readPlace t place
  match t.node? place with
  | some .directory =>
    (← (entryAt place).path.readDir).foldlM (fun t e => readBelow t (place ++ [e.fileName])) t
  | _ => return t

/-- The tree of what stands above, at and below some paths. -/
def readTree (paths : List Path) : IO FileTree := do
  let here : Path := ⟨(← IO.currentDir).toString⟩
  let start : FileTree := { FileTree.empty with workDir := here.components }
  paths.foldlM (fun t p => do
    let place := t.intended p
    let t ← (FileTree.lineage place.dropLast).foldlM readPlace t
    readBelow t place) start

/-- Writes what a tree has beyond or unlike another. -/
def writeChanges (before after : FileTree) : IO Unit :=
  after.nodes.toList.forM fun (place, node) => do
    let path := (entryAt place).path
    match node, before.node? place with
    | .directory, some .directory => pure ()
    | .directory, _ => IO.FS.createDirAll path
    | .file bytes, some (.file old) =>
      if old.data ≠ bytes.data then IO.FS.writeBinFile path bytes
    | .file bytes, _ => IO.FS.writeBinFile path bytes

/-! ## Runs -/

/-- Says why a run failed and gives its exit code. -/
def report (failure : Failure) : IO UInt32 := do
  IO.eprintln ("Error: " ++ failure.message)
  return 1

/-- Shows an outcome and gives its exit code. -/
def conclude (o : Outcome) : IO UInt32 := do
  IO.print o.output
  match o.failure with
  | some f => discard (report f)
  | none => if o.exitCode ≠ 0 then IO.eprintln "invalid arguments; --help shows the usage"
  return o.exitCode

/-- Reads the rest of a line, without its newline, onto the reversed bytes read so far; none at the
end of the input. -/
partial def readLine (input : IO.FS.Stream) (read : List UInt8) : IO (Option (List UInt8)) := do
  let bytes ← input.read 1
  match bytes.data.toList.head? with
  | none => return if read.isEmpty then none else some read.reverse
  | some 10 => return some read.reverse
  | some b => readLine input (b :: read)

/-- Answers the lines of the input as they come. -/
partial def answerLines (s : Session) (input output : IO.FS.Stream) : IO UInt32 := do
  output.putStr Session.prompt
  output.flush
  match ← readLine input [] with
  | none =>
    output.putStrLn ""
    return 0
  | some line =>
    match Session.lineText? line with
    | none => report (.io .notUtf8)
    | some text =>
      match s.reply text with
      | .quit => return 0
      | .answer answer =>
        output.putStr answer
        answerLines s input output

/-- Runs the query program. -/
def query (args : List String) : IO UInt32 := do
  match readQuery args with
  | .error r => conclude (r.outcome queryUsage .empty)
  | .ok command =>
    match command.session (← readTree [command.data]) with
    | .error f => report f
    | .ok s =>
      IO.print s.banner
      answerLines s (← IO.getStdin) (← IO.getStdout)

/-- The time of the run, as manifests state it. -/
def now : IO String := do
  let time := Std.Time.DateTime.ofTimestamp (← Std.Time.Timestamp.now) .UTC
  return time.format "uuuu-MM-dd'T'HH:mm:ss.SSSSSSSSS'Z'"

/-- Runs the indexer program. -/
def indexer (args : List String) : IO UInt32 := do
  let paths := match readIndexer args with
    | .ok command => command.paths
    | .error _ => []
  let before ← readTree paths
  let o := runIndexer (← now) args before
  writeChanges before o.tree
  conclude o

end DocSearch.Shell

/-- Runs the program that the first argument names. -/
def main (args : List String) : IO UInt32 :=
  match args with
  | "query" :: rest => DocSearch.Shell.query rest
  | "indexer" :: rest => DocSearch.Shell.indexer rest
  | _ => do
    IO.eprintln (DocSearch.CommandLine.queryUsage ++ DocSearch.CommandLine.indexerUsage)
    return 2
