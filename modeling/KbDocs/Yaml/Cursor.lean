/-
A place in a text that is laid out by indentation. Besides the text
still to be read, a cursor knows how much was read before it and at
which line and column it stands, because columns decide where a block
ends and lines decide where a key may stand.

Reading is a `Scan`: it takes a cursor to a result and the cursor after
it, or fails. Failures carry no message, since a text that cannot be
read is as good as no text to the callers.
-/
namespace KbDocs.Yaml

/-- A place in a text. -/
structure Cursor where
  rest : List Char
  index : Nat := 0
  line : Nat := 0
  column : Nat := 0

/-- Whether a character ends a line. A carriage return never does: line
ends are unified before a text is read. -/
def isBreak (c : Char) : Bool :=
  c == '\n' || c == '\x85' || c == '\u2028' || c == '\u2029'

/-- Whether a line, or the text, ends here. -/
def endsLine : Option Char → Bool
  | none => true
  | some c => isBreak c

/-- Whether a word ends here: at a space, or with the line. -/
def endsWord : Option Char → Bool
  | none => true
  | some c => c == ' ' || isBreak c

/-- Whether an indicator stands alone before this: before a space, a tab
or the end of the line. -/
def endsIndicator : Option Char → Bool
  | none => true
  | some c => c == ' ' || c == '\t' || isBreak c

/-- The mark that may open a text and takes no column. -/
def byteOrderMark : Char :=
  '\ufeff'

/-- The cursor behind the next character. -/
def Cursor.next (p : Cursor) : Cursor :=
  match p.rest with
  | [] => p
  | c :: r =>
      if isBreak c then ⟨r, p.index + 1, p.line + 1, 0⟩
      else if c == byteOrderMark then ⟨r, p.index + 1, p.line, p.column⟩
      else ⟨r, p.index + 1, p.line, p.column + 1⟩

/-- Whether a line that holds only a document mark, or starts with one,
begins here. -/
def Cursor.atDocumentMark (p : Cursor) (mark : List Char) : Bool :=
  mark.isPrefixOf p.rest && endsIndicator (p.rest.drop mark.length).head?

/-- The mark before a document. -/
def startMark : List Char :=
  ['-', '-', '-']

/-- The mark after a document. -/
def endMark : List Char :=
  ['.', '.', '.']

/-- Whether a mark of either kind stands here. -/
def Cursor.atSeparator (p : Cursor) : Bool :=
  p.atDocumentMark startMark || p.atDocumentMark endMark

-- ============================================================ scanning

/-- A step of reading. -/
abbrev Scan :=
  StateT Cursor Option

/-- The next character, if the text goes on. -/
def peek : Scan (Option Char) := do
  return (← get).rest.head?

/-- The character a number of places ahead. -/
def peekAt (n : Nat) : Scan (Option Char) := do
  return ((← get).rest.drop n).head?

/-- Goes on by one character. -/
def skip : Scan Unit :=
  modify Cursor.next

/-- Goes on by a number of characters. -/
def skipMany : Nat → Scan Unit
  | 0 => pure ()
  | n + 1 => do skip; skipMany n

/-- Goes on, provided that a condition holds. -/
def require (condition : Bool) : Scan Unit :=
  if condition then pure () else failure

/-- The characters up to the first that fails a test. -/
def takeWhile (test : Char → Bool) : Scan (List Char) := do
  let found := (← get).rest.takeWhile test
  skipMany found.length
  return found

/-- Passes over spaces. -/
def skipSpaces : Scan Unit := do
  let _ ← takeWhile (· == ' ')

/-- Passes over the rest of the line. -/
def skipLine : Scan Unit := do
  let _ ← takeWhile (!isBreak ·)

/-- Passes over a comment, if one starts here. -/
def skipComment : Scan Unit := do
  if (← peek) == some '#' then skipLine

/-- The text of a line end, if one stands here: the Unicode separators
stand for themselves and every other line end for a line feed. -/
def lineBreak : Scan (List Char) := do
  match ← peek with
  | some c =>
      if c == '\n' || c == '\x85' then
        skip
        return ['\n']
      else if isBreak c then
        skip
        return [c]
      else return []
  | none => return []

/-- Passes over the end of a line on which only a comment may still
stand. -/
def skipLineEnd : Scan Unit := do
  skipSpaces
  skipComment
  require (endsLine (← peek))
  let _ ← lineBreak

/-- Whether a character may stand in the name of an anchor, a tag handle
or a directive. -/
def isNameChar (c : Char) : Bool :=
  c.isAlphanum || c == '-' || c == '_'

/-- A word of at least one such character. -/
def word : Scan (List Char) := do
  let found ← takeWhile isNameChar
  require !found.isEmpty
  return found

/-- The value of a hexadecimal digit. -/
def hexValue? (c : Char) : Option Nat :=
  if '0' ≤ c && c ≤ '9' then some (c.toNat - 48)
  else if 'A' ≤ c && c ≤ 'F' then some (c.toNat - 55)
  else if 'a' ≤ c && c ≤ 'f' then some (c.toNat - 87)
  else none

/-- A number written in an exact count of hexadecimal digits. -/
def hexNumber (digits : Nat) : Scan Nat := do
  let found := (← get).rest.take digits
  require (found.length == digits)
  let values ← (found.mapM hexValue? : Option (List Nat))
  skipMany digits
  return values.foldl (fun n d => n * 16 + d) 0

end KbDocs.Yaml
