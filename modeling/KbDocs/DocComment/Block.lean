/-
Documentation blocks. A block opens with `/**` and runs to the next
`*/`; only the first block of a source counts. Its lines are read
without the asterisk that usually leads them and without white space at
either end.
-/
import KbDocs.Text.Blank
import KbDocs.Text.Cut

namespace KbDocs.DocBlock

open KbDocs.Text

/-- How a block opens. -/
def opener : List Char :=
  "/**".toList

/-- How a block closes. -/
def closer : List Char :=
  "*/".toList

/-- The trimmed text between the first opener and the first closer after
it. -/
def body? (source : List Char) : Option (List Char) :=
  match (cutPhrase opener source).2 with
  | none => none
  | some rest =>
      match cutPhrase closer rest with
      | (inside, some _) => some (trim inside)
      | (_, none) => none

/-- A line of a block without the asterisk that leads it. -/
def cleanLine (line : List Char) : List Char :=
  match trim line with
  | '*' :: rest => trim rest
  | plain => plain

/-- The cleaned lines of the block of a source; none without a block. -/
def cleanLines (source : List Char) : List (List Char) :=
  match body? source with
  | none => []
  | some inside => (lines inside).map cleanLine

/-- The cleaned text of the block of a source, empty without one. -/
def text (source : String) : String :=
  String.ofList (join ['\n'] (cleanLines source.toList))

end KbDocs.DocBlock
