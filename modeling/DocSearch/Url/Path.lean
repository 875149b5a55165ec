/-
Paths of addresses as they are written: segments, each after a slash. A path grows segment by
segment, from nothing or from the path of another address. A dot segment is not written; two dots
take the segment before them away, except for a drive letter.
-/
import DocSearch.Url.Basic
import DocSearch.Url.Percent

namespace DocSearch.Url

/-- Whether a character counts for nothing in an address. -/
def isIgnored (c : Char) : Bool := c = '\t' || c = '\n' || c = '\r'

/-- Whether a character is a slash of either direction. -/
def isAnySlash (c : Char) : Bool := c = '/' || c = '\\'

/-- Whether a character separates segments for a kind of scheme. -/
def SchemeKind.isSlash (k : SchemeKind) (c : Char) : Bool := c = '/' || (k.isSpecial && c = '\\')

/-- Whether a character ends the path. -/
def endsPath (c : Char) : Bool := c = '?' || c = '#'

/-! ## Drive letters -/

/-- Whether a text starts with a drive letter: a letter and a colon or a bar, with nothing more in
the segment. -/
def startsWithDrive (cs : List Char) : Bool :=
  match cs with
  | a :: b :: rest =>
    a.isAlpha && (b = ':' || b = '|') && rest.head?.all fun c => isAnySlash c || endsPath c
  | _ => false

/-- Whether a text is a drive letter. -/
def isDrive (cs : List Char) : Bool := cs.length == 2 && startsWithDrive cs

/-- Whether a text is a drive letter with a colon. -/
def isNormalDrive (cs : List Char) : Bool := match cs with
  | [a, ':'] => a.isAlpha
  | _ => false

/-! ## Dot segments -/

/-- Whether a segment stands for the directory itself. -/
def isSingleDot (s : List Char) : Bool :=
  [".", "%2e"].contains (String.ofList (s.map Char.toLower))

/-- Whether a segment stands for the directory above. -/
def isDoubleDot (s : List Char) : Bool :=
  ["..", ".%2e", "%2e.", "%2e%2e"].contains (String.ofList (s.map Char.toLower))

/-! ## Going up -/

/-- What follows the last slash. -/
def lastSegment (path : List Char) : List Char := (path.reverse.takeWhile (· != '/')).reverse

/-- The path up to its last slash. -/
def upToSlash (path : List Char) : List Char := (path.reverse.dropWhile (· != '/')).reverse

/-- Whether a path ends in a slash. -/
def endsInSlash (path : List Char) : Bool := path.getLast? == some '/'

/-- The path with a slash at its end. -/
def closed (path : List Char) : List Char := if endsInSlash path then path else path ++ ['/']

/-- Takes the slash at the end away, unless it is the first one or stands behind a drive letter. -/
def withoutEndSlash (path : List Char) : List Char :=
  let front := path.dropLast
  if endsInSlash path ∧ front.contains '/' ∧ !startsWithDrive (lastSegment front ++ ['/']) then front
  else path

/-- Takes the last segment away; the drive letter of a file stays. -/
def pop (k : SchemeKind) (path : List Char) : List Char :=
  if k = .file ∧ isNormalDrive (lastSegment path) then path else upToSlash path

/-- The path of the directory above. -/
def goUp (k : SchemeKind) (path : List Char) : List Char := pop k (withoutEndSlash path)

/-! ## Writing -/

/-- A path while it is written. -/
structure PathDraft where
  text : List Char
  /-- Whether its first segment was written as the drive letter of a file. -/
  onDrive : Bool

/-- Writes pieces of a segment onto a path. A piece that follows the drive letter of a file is not a
part of it, and comes after a slash. -/
def writePieces (k : SchemeKind) (path : List Char) (pieces : List (List Char)) : List Char :=
  pieces.foldl (fun path piece =>
    if piece.isEmpty then path
    else if k = .file ∧ isNormalDrive (path.drop 1) then path ++ '/' :: piece
    else path ++ piece) path

/-- Adds a segment; `more` says whether a slash follows it. Ignored characters divide a segment into
pieces. -/
def PathDraft.addSegment (k : SchemeKind) (d : PathDraft) (more : Bool) (segment : List Char) :
    PathDraft :=
  let pieces := (segment.splitOnP isIgnored).map (·.flatMap (escapeIn inPathSet))
  let text := writePieces k d.text pieces
  let start := text.length - pieces.flatten.length
  let written := text.drop start
  let close (path : List Char) : List Char := if more then path ++ ['/'] else path
  if isDoubleDot written then
    let above := goUp k (text.take start)
    { d with text := if more then closed above else above }
  else if isSingleDot written then { d with text := closed (text.take start) }
  else if k = .file ∧ start = 1 ∧ isDrive written then
    ⟨close (text.take start ++ written.take 1 ++ [':']), true⟩
  else { d with text := close text }

/-- Adds the segments of a text. -/
def PathDraft.addSegments (k : SchemeKind) (d : PathDraft) (cs : List Char) : PathDraft :=
  let segments := cs.splitOnP k.isSlash
  (segments.dropLast.foldl (·.addSegment k true) d).addSegment k false (segments.getLast?.getD [])

/-- The path that `cs` writes onto the path `start`. The path of a file has one slash in front. -/
def readPath (k : SchemeKind) (start cs : List Char) : PathDraft :=
  let d := (⟨start, false⟩ : PathDraft).addSegments k cs
  if k = .file then { d with text := '/' :: d.text.dropWhile (· = '/') } else d

end DocSearch.Url
