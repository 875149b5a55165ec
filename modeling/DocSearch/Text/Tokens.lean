/-
Tokens of free text: the maximal runs of word characters, each lowercased by itself. There is no
stemming and no list of stop words.
-/
import DocSearch.Text.Lowercase
import DocSearch.Text.WordChar

namespace DocSearch.Text

/-- The lowercased runs of word characters of a text, in order. -/
def tokens (cs : List Char) : List (List Char) :=
  ((cs.splitOnP (!isWordChar ·)).filter (!·.isEmpty)).map lower

/-- The tokens of a string. -/
def tokenize (text : String) : List String := (tokens text.toList).map .ofList

end DocSearch.Text
