/-
The two command lines, `query` and `indexer`. An option takes its value after an equals sign or as
the next argument, which must not look like an option; no option may be given twice.
-/
import DocSearch.Commands
import DocSearch.Session
import DocSearch.Url.Parse

namespace DocSearch.CommandLine

/-- What a command line asks for when it is no command. -/
inductive Refusal where
  /-- The arguments do not fit. -/
  | usage
  /-- Help is asked for. -/
  | help
  deriving DecidableEq, Repr

/-- Options with their values, in the order given, and what follows them. -/
structure Options where
  values : List (String × String)
  rest : List String
  deriving DecidableEq, Repr

/-- Splits an argument `--name=value` at its first equals sign. -/
def splitOption (arg : String) : String × Option String :=
  let cs := arg.toList
  match cs.dropWhile (· != '=') with
  | [] => (arg, none)
  | _ :: value => (.ofList (cs.takeWhile (· != '=')), some (.ofList value))

/-- Whether an argument looks like an option and so cannot be a value. -/
def looksLikeOption (arg : String) : Bool := arg.startsWith "-" && arg != "-"

/-- Whether an argument asks for help. What follows the letter of the short form is not read. -/
def asksForHelp (arg : String) : Bool := arg = "--help" || arg.startsWith "-h"

/-- The answer to a request for help on the subcommand that `args` name, if they name one. -/
def helpOn (subcommands : List String) (args : List String) : Refusal :=
  match args with
  | [] => .help
  | [name] => if name ∈ "help" :: subcommands then .help else .usage
  | _ => .usage

/-- An option that takes a value, and which values it takes. -/
structure OptionSpec where
  name : String
  accepts : String → Bool

/-- Reads leading options up to the first other argument. Two dashes end them, after which nothing
may follow. A value is checked when it is read. -/
def readOptions (specs : List OptionSpec) (given : List (String × String)) :
    List String → Except Refusal Options
  | [] => .ok ⟨given.reverse, []⟩
  | arg :: rest =>
    if asksForHelp arg then .error .help
    else if arg = "--" then if rest.isEmpty then .ok ⟨given.reverse, []⟩ else .error .usage
    else if !looksLikeOption arg then .ok ⟨given.reverse, arg :: rest⟩
    else
      let (name, value) := splitOption arg
      match specs.find? (·.name = name) with
      | none => .error .usage
      | some spec =>
        if name ∈ given.map (·.1) then .error .usage
        else
          match value with
          | some v =>
            if spec.accepts v then readOptions specs ((name, v) :: given) rest else .error .usage
          | none =>
            match rest with
            | [] => .error .usage
            | v :: rest =>
              if !looksLikeOption v && spec.accepts v then
                readOptions specs ((name, v) :: given) rest
              else .error .usage

/-- The value of an option. -/
def Options.get? (o : Options) (name : String) : Option String :=
  (o.values.find? (·.1 = name)).map (·.2)

/-- Requires that nothing follows the options. -/
def Options.requireEnd (o : Options) : Except Refusal Unit :=
  if o.rest.isEmpty then .ok () else .error .usage

/-- An option whose value is a path, which may not be empty. -/
def pathOption (name : String) : OptionSpec := ⟨name, fun v => !v.isEmpty⟩

/-- An option whose value `read` understands. -/
def valueOption {β : Type} (name : String) (read : String → Option β) : OptionSpec :=
  ⟨name, fun v => (read v).isSome⟩

/-- The path of an option that has to be given. -/
def Options.path (o : Options) (name : String) : Except Refusal Path :=
  match o.get? name with
  | some v => .ok ⟨v⟩
  | none => .error .usage

/-- The value of an option as read by `read`, or `dflt` if it is not given. -/
def Options.valueOr {β : Type} (o : Options) (name : String) (read : String → Option β)
    (dflt : β) : β :=
  ((o.get? name).bind read).getD dflt

/-! ## The query program -/

/-- What the query program is asked to do. -/
inductive QueryCommand where
  | boolean (data : Path)
  | ranked (data : Path) (space : SearchSpace) (topK : Nat) (authority : Snapshot.AuthorityMode)
  deriving DecidableEq, Repr

/-- The names of the search spaces. -/
def searchSpace? (s : String) : Option SearchSpace :=
  if s = "token" then some (.single .tokens)
  else if s = "lemma" then some (.single .lemmas)
  else if s = "both" then some .both
  else none

/-- The names of the kinds of authority. -/
def authorityMode? (s : String) : Option Snapshot.AuthorityMode :=
  if s = "pagerank" then some .pageRank
  else if s = "links" then some .linkCounts
  else if s = "none" then some .none
  else none

/-- The snapshot directory unless one is given. -/
def defaultData : Path := ⟨"./data"⟩

/-- A number of hits. -/
def count? (s : String) : Option Nat := Numeral.below? UInt64.size s.toList

/-- Reads the arguments of the query program. -/
def readQuery (args : List String) : Except Refusal QueryCommand := do
  let o ← readOptions [pathOption "--data"] [] args
  let data : Path := ((o.get? "--data").map Path.mk).getD defaultData
  match o.rest with
  | "boolean" :: rest => do
    (← readOptions [] [] rest).requireEnd
    .ok (.boolean data)
  | "ranked" :: rest => do
    let o ← readOptions [valueOption "--space" searchSpace?, valueOption "--top-k" count?,
      valueOption "--authority" authorityMode?] [] rest
    o.requireEnd
    .ok (.ranked data (o.valueOr "--space" searchSpace? (.single .tokens))
      (o.valueOr "--top-k" count? defaultTopK) (o.valueOr "--authority" authorityMode? .pageRank))
  | "help" :: rest => .error (helpOn ["boolean", "ranked"] rest)
  | _ => .error .usage

/-! ## The indexer program -/

/-- What the indexer program is asked to do. -/
inductive IndexerCommand where
  | buildIndex (corpus output : Path)
  | writeWeights (corpus output : Path)
  | writeLinks (pages metadata output : Path)
  deriving DecidableEq, Repr

/-- Reads the arguments of the indexer program. -/
def readIndexer (args : List String) : Except Refusal IndexerCommand := do
  let o ← readOptions [] [] args
  match o.rest with
  | "build-index" :: rest => do
    let o ← readOptions [pathOption "--corpus", pathOption "--output"] [] rest
    o.requireEnd
    .ok (.buildIndex (← o.path "--corpus") (← o.path "--output"))
  | "tfidf" :: rest => do
    let o ← readOptions [pathOption "--corpus", pathOption "--output"] [] rest
    o.requireEnd
    .ok (.writeWeights (← o.path "--corpus") (← o.path "--output"))
  | "links" :: rest => do
    let o ← readOptions
      [pathOption "--pages", pathOption "--metadata", pathOption "--output"] [] rest
    o.requireEnd
    .ok (.writeLinks (← o.path "--pages") (← o.path "--metadata") (← o.path "--output"))
  | "help" :: rest => .error (helpOn ["build-index", "tfidf", "links"] rest)
  | _ => .error .usage

/-! ## Running -/

/-- What a run shows: its exit code, its output, the reason of a failure, and the tree it leaves. -/
structure Outcome where
  exitCode : UInt32
  output : String
  failure : Option Failure
  tree : FileTree

/-- The outcome of arguments that are no command. -/
def Refusal.outcome (r : Refusal) (usage : String) (t : FileTree) : Outcome :=
  match r with
  | .usage => ⟨2, "", none, t⟩
  | .help => ⟨0, usage, none, t⟩

/-- How the query program is used. -/
def queryUsage : String :=
  "Usage: query [--data <DATA>] <boolean|ranked>\n" ++
  "  ranked [--space <token|lemma|both>] [--top-k <N>] [--authority <pagerank|links|none>]\n"

/-- The path that a query command reads at. -/
def QueryCommand.data : QueryCommand → Path
  | .boolean data => data
  | .ranked data .. => data

/-- The session that a query command asks for. -/
def QueryCommand.session (c : QueryCommand) (t : FileTree) : Except Failure Session :=
  match c with
  | .boolean data => (Snapshot.loadBoolean ⟨data⟩ t).map Session.boolean
  | .ranked data space topK authority =>
    (Snapshot.loadEngine ⟨data⟩ t authority).map (Session.ranked · space topK)

/-- Runs the query program. -/
def runQuery (args : List String) (input : ByteArray) (t : FileTree) : Outcome :=
  match readQuery args with
  | .error r => r.outcome queryUsage t
  | .ok command =>
    match command.session t with
    | .error f => ⟨1, "", some f, t⟩
    | .ok s =>
      let r := s.run input
      if r.failed then ⟨1, r.output, some (.io .notUtf8), t⟩ else ⟨0, r.output, none, t⟩

/-- How the indexer program is used. -/
def indexerUsage : String :=
  "Usage: indexer <build-index|tfidf|links>\n" ++
  "  build-index --corpus <CORPUS> --output <OUTPUT>\n" ++
  "  tfidf --corpus <CORPUS> --output <OUTPUT>\n" ++
  "  links --pages <PAGES> --metadata <METADATA> --output <OUTPUT>\n"

/-- The paths that an indexer command reads and writes at. -/
def IndexerCommand.paths : IndexerCommand → List Path
  | .buildIndex corpus output => [corpus, output]
  | .writeWeights corpus output => [corpus, output]
  | .writeLinks pages metadata output => [pages, metadata, output]

/-- The change that an indexer command makes. -/
def IndexerCommand.change (now : String) : IndexerCommand → Commands.Command
  | .buildIndex corpus output => Commands.buildIndex corpus output
  | .writeWeights corpus output => Commands.writeWeights now corpus output
  | .writeLinks pages metadata output => Commands.writeLinks pages metadata output

/-- Runs the indexer program; `now` is the time of the run. -/
def runIndexer (now : String) (args : List String) (t : FileTree) : Outcome :=
  match readIndexer args with
  | .error r => r.outcome indexerUsage t
  | .ok command =>
    match (command.change now).run t with
    | (.ok (), t') => ⟨0, "", none, t'⟩
    | (.error f, t') => ⟨1, "", some f, t'⟩

end DocSearch.CommandLine
