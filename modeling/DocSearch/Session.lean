/-
Interactive sessions as functions from the bytes of the input to the text of the output. Each line
is answered by itself; the session ends at the line that quits, at the end of the input, or at the
first line that is not UTF-8.
-/
import DocSearch.Binary64.Format
import DocSearch.BoolQuery.Evaluate
import DocSearch.Ranking.Engine
import DocSearch.Text.Utf8

namespace DocSearch

/-- What a session wrote, and whether it ended at a line that is not UTF-8. -/
structure Session.Transcript where
  output : String
  failed : Bool
  deriving DecidableEq, Repr

/-- What a session does with a line. -/
inductive Session.Reply where
  | quit
  | answer (text : String)
  deriving DecidableEq, Repr

/-- A session: what it writes first, and what it does with each line, read without the blanks around
it. -/
structure Session where
  banner : String
  reply : String → Session.Reply

namespace Session

open Text

/-- What is written before each line is read. -/
def prompt : String := "Query> "

/-- The lines of an input, without their newlines. -/
def inputLines (bytes : ByteArray) : List (List UInt8) :=
  let pieces := bytes.data.toList.splitOn 10
  if pieces.getLast? = some [] then pieces.dropLast else pieces

/-- The text of a line without the blanks around it, if it is UTF-8. -/
def lineText? (line : List UInt8) : Option String := (decode? ⟨line.toArray⟩).map trimString

/-- Answers lines one after another, after what was written before them. -/
def converse (reply : String → Reply) (written : String) : List (List UInt8) → Transcript
  | [] => ⟨written ++ prompt ++ "\n", false⟩
  | line :: rest =>
    match lineText? line with
    | none => ⟨written ++ prompt, true⟩
    | some query =>
      match reply query with
      | .quit => ⟨written ++ prompt, false⟩
      | .answer text => converse reply (written ++ prompt ++ text) rest

/-- Runs a session on an input. -/
def run (s : Session) (input : ByteArray) : Transcript :=
  converse s.reply s.banner (inputLines input)

/-! ## Boolean sessions -/

/-- The answer to a boolean query: the documents, or why there is no answer. -/
def booleanAnswer (p : Postings) (query : String) : String :=
  match BoolQuery.evaluate p query with
  | .ok docs => "Results: " ++ docs.text ", " ++ "\n"
  | .error e => "Error: " ++ e.message ++ "\n"

/-- Whether a line is the word `exit`, in ASCII letters of any case. -/
def isExit (query : String) : Bool := query.toList.map Char.toLower = "exit".toList

/-- A boolean session over an index. -/
def boolean (p : Postings) : Session where
  banner := "Boolean Search (AND/OR/NOT, use parentheses)\n"
  reply query := if isExit query then .quit else .answer (booleanAnswer p query)

/-! ## Ranked sessions -/

/-- The line of a hit. -/
def hitLine (h : Hit Binary64) : String := h.doc.text ++ " (" ++ h.score.fixed 4 ++ ")\n"

/-- The answer to a ranked query: a heading and a line for each hit. -/
def rankedAnswer (e : Engine Binary64) (s : SearchSpace) (topK : Nat) (query : String) : String :=
  "Results for '" ++ query ++ "':\n" ++ String.join ((e.searchIn s query topK).map hitLine)

/-- A ranked session with an engine. -/
def ranked (e : Engine Binary64) (s : SearchSpace) (topK : Nat) : Session where
  banner := "Enter a query (q to quit)\n"
  reply query := if query = "q" then .quit else .answer (rankedAnswer e s topK query)

end Session

end DocSearch
