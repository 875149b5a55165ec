/-
Reading addresses, alone or against the address of the page they stand on. Blanks and control
characters around an address count for nothing, and neither do line breaks and tabs inside it, but
for one place: in the path of a file they close off a drive letter. So the text of a file's address
is kept as it is, and of any other only the characters that count.
-/
import DocSearch.Address
import DocSearch.Url.Domain
import DocSearch.Url.Ip
import DocSearch.Url.Path

namespace DocSearch.Url

/-! ## Input -/

/-- Whether a character counts for nothing at the ends of an address. -/
def isEdge (c : Char) : Bool := c.toNat ≤ 0x20

/-- The text of an address without the characters around it. -/
def trimEdges (cs : List Char) : List Char :=
  ((cs.dropWhile isEdge).reverse.dropWhile isEdge).reverse

/-- The characters of an address that count. -/
def significant (cs : List Char) : List Char := cs.filter (!isIgnored ·)

/-- The first character that counts, and what follows it. -/
def next? (cs : List Char) : Option (Char × List Char) :=
  match cs.dropWhile isIgnored with
  | [] => none
  | c :: rest => some (c, rest)

/-- Whether a character ends the part before the path. -/
def SchemeKind.endsAuthority (k : SchemeKind) (c : Char) : Bool := k.isSlash c || endsPath c

/-- Whether a character may stand in a scheme. -/
def isSchemeChar (c : Char) : Bool := c.isAlphanum || c = '+' || c = '-' || c = '.'

/-- Reads a scheme and the colon after it. -/
def readScheme? (cs : List Char) : Option (String × List Char) :=
  let inScheme (c : Char) : Bool := isIgnored c || isSchemeChar c
  match significant (cs.takeWhile inScheme), cs.dropWhile inScheme with
  | first :: name, ':' :: rest =>
    if first.isAlpha then some (.ofList ((first :: name).map Char.toLower), rest) else none
  | _, _ => none

/-! ## Hosts -/

/-- Whether a name of an address without a special scheme may not hold a character. -/
def isForbiddenInName (c : Char) : Bool :=
  "\x00\t\n\r #/:<>?@[\\]^|".toList.contains c

/-- Reads an address in brackets. -/
def bracketed? (cs : List Char) : Option Host :=
  match cs with
  | '[' :: rest => if rest.getLast? = some ']' then (ipv6? rest.dropLast).map .ipv6 else none
  | _ => none

/-- Reads the host of a special address: a number in brackets, or a domain, which may be a number
too. -/
def specialHost? (cs : List Char) : Option Host :=
  if cs.head? = some '[' then bracketed? cs
  else do
    let domain ← Domain.toAscii? (unescape cs)
    if domain.isEmpty then none
    else if endsInNumber domain then (ipv4? domain).map .ipv4
    else some (.name (.ofList domain))

/-- Reads the host of any other address: a number in brackets, or a name, which may be empty. -/
def otherHost? (cs : List Char) : Option Host :=
  if cs.head? = some '[' then bracketed? cs
  else if cs.any isForbiddenInName then none
  else some (.name (escape isControl cs))

/-- Splits a text before the first colon outside brackets. -/
def splitPort (inside : Bool) (before : List Char) : List Char → List Char × List Char
  | [] => (before.reverse, [])
  | c :: rest =>
    if c = ':' ∧ !inside then (before.reverse, c :: rest)
    else splitPort (if c = '[' then true else if c = ']' then false else inside) (c :: before) rest

/-- Reads the port after a colon, up to what is no digit. None is written for the usual port of the
scheme. A backslash may follow, which then belongs to the path. -/
def readPort? (scheme : String) (cs : List Char) : Option (Option Nat × List Char) :=
  let digits := cs.takeWhile Char.isDigit
  let rest := cs.dropWhile Char.isDigit
  if !rest.head?.all (· = '\\') then none
  else if digits.isEmpty then some (none, rest)
  else do
    let port ← (Numeral.digits? digits).filter (· < 0x10000)
    some (if defaultPort? scheme = some port then none else some port, rest)

/-- The user name and password before the last at sign. -/
def readUser (cs : List Char) : String × String :=
  (escape inUserSet (cs.takeWhile (· != ':')), escape inUserSet ((cs.dropWhile (· != ':')).drop 1))

/-- Splits a text at its last at sign. -/
def splitLastAt (cs : List Char) : Option (List Char × List Char) :=
  let after := (cs.reverse.takeWhile (· != '@')).reverse
  if after.length = cs.length then none
  else some (cs.take (cs.length - after.length - 1), after)

/-- Reads what stands between the slashes and the path, and returns what it leaves to the path. -/
def readAuthority? (scheme : String) (cs : List Char) : Option (Authority × List Char) := do
  let (user, rest) := (splitLastAt cs).getD ([], cs)
  let (username, password) := readUser user
  let (hostText, portText) := splitPort false [] rest
  let special := (kindOf scheme).isSpecial
  let host ← if special then specialHost? hostText else otherHost? hostText
  let (port, rest) ← readPort? scheme (portText.drop 1)
  if host = .name "" ∧ (special ∨ !portText.isEmpty ∨ username ≠ "" ∨ password ≠ "") then none
  else some (⟨username, password, host, port⟩, rest)

/-! ## After the host -/

/-- Drops one slash at the start. -/
def dropSlash (isSlash : Char → Bool) (cs : List Char) : List Char :=
  match cs with
  | c :: rest => if isSlash c then rest else cs
  | [] => []

/-- The query and the fragment that follow a path. -/
def readEnd (k : SchemeKind) (cs : List Char) : Option String × Option String :=
  let fragmentOf (cs : List Char) : Option String := match cs with
    | '#' :: f => some (escape inFragmentSet f)
    | _ => none
  match cs with
  | '?' :: rest =>
    let set := if k.isSpecial then inSpecialQuerySet else inQuerySet
    (some (escape set (rest.takeWhile (· != '#'))), fragmentOf (rest.dropWhile (· != '#')))
  | _ => (none, fragmentOf cs)

/-- The address with the given path and what follows it. -/
def finish (scheme : String) (authority : Option Authority) (path : Location) (cs : List Char) :
    Url :=
  let (query, fragment) := readEnd (kindOf scheme) (significant cs)
  ⟨scheme, authority, path, query, fragment⟩

/-- The address whose path `cs` writes onto the path `start`. -/
def finishPath (scheme : String) (authority : Option Authority) (start cs : List Char) : Url :=
  finish scheme authority
    (.segments (readPath (kindOf scheme) start (cs.takeWhile (!endsPath ·))).text)
    (cs.dropWhile (!endsPath ·))

/-! ## Addresses -/

/-- Reads an address after the two slashes. -/
def afterSlashes? (scheme : String) (cs : List Char) : Option Url := do
  let k := kindOf scheme
  let text := cs.takeWhile (!k.endsAuthority ·)
  let rest := cs.dropWhile (!k.endsAuthority ·)
  let (authority, left) ← readAuthority? scheme text
  if text = ['@'] ∧ !rest.isEmpty then none
  else if !k.isSpecial ∧ (left ++ rest).head?.all endsPath then
    some (finish scheme (some authority) (.segments []) rest)
  else some (finishPath scheme (some authority) ['/'] (dropSlash k.isSlash (left ++ rest)))

/-- Reads an address relative to one of the same kind, which is not plain. -/
def readRelative? (base : Url) (cs : List Char) : Option Url :=
  let k := kindOf base.scheme
  match cs with
  | [] => some { base with fragment := none }
  | '?' :: _ => some (finish base.scheme base.authority base.path cs)
  | '#' :: _ => some { base with fragment := (readEnd k cs).2 }
  | c :: rest =>
    if isAnySlash c then
      if rest.head?.any isAnySlash then
        if c = '/' ∧ rest.head? = some '/' then afterSlashes? base.scheme (rest.drop 1)
        else afterSlashes? base.scheme (cs.dropWhile isAnySlash)
      else some (finishPath base.scheme base.authority ['/'] rest)
    else
      let directory := pop k base.pathText
      some (finishPath base.scheme base.authority
        (if directory.isEmpty then ['/'] else directory) cs)

/-! ## Addresses of files -/

/-- The part before the path of a file with the given host. -/
def fileAuthority (host : Host) : Option Authority := some ⟨"", "", host, none⟩

/-- The part before the path of a file without a host. -/
def noHost : Option Authority := fileAuthority (.name "")

/-- The address of a file whose path `cs` writes onto the path `start`. -/
def filePath (authority : Option Authority) (start cs : List Char) : Url :=
  finishPath "file" authority start cs

/-- Reads the address of a file after the slashes. A drive letter is no host, and a host is dropped
if the path starts with a drive letter. -/
def fileAfterSlashes? (cs : List Char) : Option Url :=
  let endsHost (c : Char) : Bool := isAnySlash c || endsPath c
  let hostText := significant (cs.takeWhile (!endsHost ·))
  let rest := cs.dropWhile (!endsHost ·)
  if isDrive hostText then some (filePath noHost ['/'] cs)
  else if hostText.isEmpty then some (filePath noHost ['/'] rest)
  else do
    let host ← specialHost? hostText
    if host = .name "localhost" then some (filePath noHost ['/'] rest)
    else
      let path := dropSlash isAnySlash rest
      let onDrive := (readPath .file ['/'] (path.takeWhile (!endsPath ·))).onDrive
      some (filePath (if onDrive then noHost else fileAuthority host) ['/'] path)

/-- The part before a path of a file that starts at the root, and what of the path of the base stays
before it: a drive letter, or the host. -/
def fileRoot (base : Option Url) (path : List Char) : Option Authority × List Char :=
  match base with
  | none => (noHost, [])
  | some b =>
    let first := (b.pathText.drop 1).takeWhile (· != '/')
    if startsWithDrive (significant path) then (noHost, [])
    else if isNormalDrive first then (noHost, '/' :: first)
    else (b.authority, [])

/-- Reads the address of a file after the scheme, or relative to that of another file. -/
def readFile? (base : Option Url) (cs : List Char) : Option Url :=
  let first := next? cs
  match first.filter (isAnySlash ·.1) with
  | some (_, rest) =>
    match (next? rest).filter (isAnySlash ·.1) with
    | some (_, rest) => fileAfterSlashes? rest
    | none =>
      let (authority, start) := fileRoot base rest
      some (filePath authority start cs)
  | none =>
    match base, first with
    | none, _ => some (filePath noHost ['/'] cs)
    | some b, none => some { b with fragment := none }
    | some b, some (c, _) =>
      if c = '?' then some (finish "file" b.authority b.path (significant cs))
      else if c = '#' then some { b with fragment := (readEnd .file (significant cs)).2 }
      else if startsWithDrive (significant cs) then some (filePath noHost ['/'] cs)
      else some (filePath b.authority (pop .file b.pathText) cs)

/-- Reads an address after its scheme. -/
def afterScheme? (base : Option Url) (scheme : String) (cs : List Char) : Option Url :=
  let text := significant cs
  match kindOf scheme with
  | .file => readFile? (base.filter (·.scheme = "file")) cs
  | .network =>
    let slashes := (text.takeWhile isAnySlash).length
    match base.filter fun b => slashes < 2 ∧ b.scheme = scheme with
    | some b => readRelative? b text
    | none => afterSlashes? scheme (text.drop slashes)
  | .other =>
    match text with
    | '/' :: '/' :: rest => afterSlashes? scheme rest
    | '/' :: rest => some (finishPath scheme none ['/'] rest)
    | _ => some (finish scheme none
        (.plain (escape isControl (text.takeWhile (!endsPath ·)))) (text.dropWhile (!endsPath ·)))

/-- Reads an address that may be relative to `base`. -/
def read? (base : Option Url) (cs : List Char) : Option Url :=
  let cs := trimEdges cs
  match readScheme? cs with
  | some (scheme, rest) => afterScheme? base scheme rest
  | none =>
    let text := significant cs
    match base with
    | none => none
    | some b =>
      if text.head? = some '#' then some { b with fragment := (readEnd (kindOf b.scheme) text).2 }
      else if b.isPlain then none
      else if b.scheme = "file" then readFile? (some b) cs
      else readRelative? b text

/-- Reads an address that stands for itself. -/
def parse? (cs : List Char) : Option Url := read? none cs

/-- Reads an address on the page `base`. -/
def join? (base : Url) (cs : List Char) : Option Url := read? (some base) cs

instance : Address Url where
  parse? := parse?
  join? := join?
  withoutFragment := withoutFragment

end DocSearch.Url
