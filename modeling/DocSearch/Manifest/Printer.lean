/-
The text of a manifest: a JSON object, one field a line, without a newline at the end.
-/
import DocSearch.Manifest.Basic

namespace DocSearch.Manifest

/-- The lower-case hexadecimal digit of a number below sixteen. -/
def hexDigit (n : Nat) : Char := .ofNat (if n < 10 then 48 + n else 87 + n)

/-- A character inside a string: quotes, backslashes and control characters are escaped. -/
def escapeChar (c : Char) : List Char :=
  if c = '"' then ['\\', '"']
  else if c = '\\' then ['\\', '\\']
  else if c = '\x08' then ['\\', 'b']
  else if c = '\x0c' then ['\\', 'f']
  else if c = '\n' then ['\\', 'n']
  else if c = '\r' then ['\\', 'r']
  else if c = '\t' then ['\\', 't']
  else if c.toNat < 32 then ['\\', 'u', '0', '0', hexDigit (c.toNat / 16), hexDigit (c.toNat % 16)]
  else [c]

/-- A string in quotes. -/
def quote (s : String) : String := "\"" ++ .ofList (s.toList.flatMap escapeChar) ++ "\""

/-- The text of a manifest. -/
def text (m : Manifest) : String :=
  "\x7b\n  \"num_docs\": " ++ m.numDocs.toNat.repr ++
    ",\n  \"created_at\": " ++ quote m.createdAt ++
    ",\n  \"version\": " ++ m.version.toNat.repr ++ "\n\x7d"

end DocSearch.Manifest
