/-
Failures of reading and writing files, with the contexts in which they were met.
-/
import DocSearch.FileTree.Basic
import DocSearch.Manifest.Basic

namespace DocSearch

/-- Why a part of a snapshot cannot be used. -/
inductive LoadError where
  | file (path : Path) (cause : IoCause)
  | manifest (fault : Manifest.Fault)
  deriving DecidableEq, Repr

/-- The text of a load error. -/
def LoadError.message : LoadError → String
  | .file path cause => "cannot read " ++ path.text ++ ": " ++ cause.text
  | .manifest _ => "invalid manifest"

/-- Why a command or a session fails. -/
inductive Failure where
  | load (e : LoadError)
  | io (cause : IoCause)
  | context (note : String) (cause : Failure)
  deriving DecidableEq, Repr

/-- The text of a failure: its contexts and its causes, outermost first. A load error that shows
its cause is followed by that cause. -/
def Failure.message : Failure → String
  | .load (.file path cause) => (LoadError.file path cause).message ++ ": " ++ cause.text
  | .load e => e.message
  | .io cause => cause.text
  | .context note cause => note ++ ": " ++ cause.message

/-- Turns a load error into a failure. -/
def orFail {β : Type} (r : Except LoadError β) : Except Failure β := r.mapError .load

/-- Puts a failure into a context. -/
def inContext {β : Type} (note : String) (r : Except Failure β) : Except Failure β :=
  r.mapError (.context note)

end DocSearch
