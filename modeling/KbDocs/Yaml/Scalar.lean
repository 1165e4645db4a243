/-
The three ways to write a text: plain, between quotes, and as a block.
Over several lines, a single line end counts as a space in plain and
quoted texts and in folded blocks, and each further line end counts for
itself. Loops run on a bound taken from the length of the rest, which
every round shortens.
-/
import KbDocs.Yaml.Cursor

namespace KbDocs.Yaml

/-- What a line end and the line ends after it stand for when a text is
folded. -/
def folded (first further : List Char) : List Char :=
  (if first != ['\n'] then first
    else if further.isEmpty then [' '] else []) ++ further

-- =============================================================== plain

/-- Whether a plain text ends before a character, given what follows
it. -/
def endsPlain (inFlow : Bool) (c : Char) (following : Option Char) : Bool :=
  endsIndicator (some c)
    || (c == ':' && (endsIndicator following
      || (inFlow && following.any ",[]\x7b\x7d".toList.contains)))
    || (inFlow && ",?[]\x7b\x7d".toList.contains c)

/-- The characters of a plain text up to the next gap. -/
def plainRun (inFlow : Bool) : List Char → List Char
  | [] => []
  | c :: r =>
      if endsPlain inFlow c r.head? then [] else c :: plainRun inFlow r

/-- The line ends of a gap, with the spaces between them passed over;
nothing if a document mark stands behind one. -/
def plainBreaks : Nat → Scan (Option (List Char))
  | 0 => return some []
  | bound + 1 => do
      match ← peek with
      | some ' ' =>
          skip
          plainBreaks bound
      | some c =>
          if isBreak c then
            let found ← lineBreak
            if (← get).atSeparator then return none
            return (← plainBreaks bound).map (found ++ ·)
          else return some []
      | none => return some []

/-- A gap in a plain text: what it stands for, empty if the text cannot
go on behind it, and whether it holds a line end. -/
def plainGap : Scan (List Char × Bool) := do
  let spaces ← takeWhile (· == ' ')
  if (← peek).any isBreak then
    let first ← lineBreak
    if (← get).atSeparator then return ([], true)
    match ← plainBreaks (← get).rest.length with
    | some further => return (folded first further, true)
    | none => return ([], true)
  else return (spaces, false)

/-- A plain text from here on, after a gap that is part of it only if
the text goes on. Also tells whether a line ended behind it. -/
def plainFrom (inFlow : Bool) (indent : Nat) :
    Nat → List Char → Bool → Scan (List Char × Bool)
  | 0, _, _ => failure
  | bound + 1, gap, broken => do
      let run := plainRun inFlow (← get).rest
      if (← peek) == some '#' || run.isEmpty then return ([], broken)
      skipMany run.length
      let (nextGap, nextBroken) ← plainGap
      if nextGap.isEmpty || (← peek) == some '#'
          || (!inFlow && (← get).column < indent) then
        return (gap ++ run, nextBroken)
      let (more, atEnd) ← plainFrom inFlow indent bound nextGap nextBroken
      return (gap ++ run ++ more, atEnd)

/-- A plain text, and whether a line ended behind it. Outside brackets
it ends at a line that is indented less. -/
def plain (inFlow : Bool) (indent : Nat) : Scan (List Char × Bool) := do
  plainFrom inFlow indent ((← get).rest.length + 1) [] false

-- ============================================================== quoted

/-- The character that a backslash and a letter stand for. -/
def namedEscape? : Char → Option Char
  | '0' => some '\x00'
  | 'a' => some '\x07'
  | 'b' => some '\x08'
  | 't' => some '\t'
  | '\t' => some '\t'
  | 'n' => some '\n'
  | 'v' => some '\x0b'
  | 'f' => some '\x0c'
  | 'r' => some '\r'
  | 'e' => some '\x1b'
  | ' ' => some ' '
  | '"' => some '"'
  | '\\' => some '\\'
  | '/' => some '/'
  | 'N' => some '\x85'
  | '_' => some '\xa0'
  | 'L' => some '\u2028'
  | 'P' => some '\u2029'
  | _ => none

/-- How many digits an escape by code point has. -/
def codeDigits? : Char → Option Nat
  | 'x' => some 2
  | 'u' => some 4
  | 'U' => some 8
  | _ => none

/-- The character of a code point. Half of a surrogate pair is no
character and reads as the replacement character. -/
def charOfCode? (n : Nat) : Option Char :=
  if n.isValidChar then some (Char.ofNat n)
  else if n < 0x110000 then some '\ufffd'
  else none

/-- The line ends inside quotes, with spaces and tabs around them passed
over. A document mark may not stand there. -/
def quotedBreaks : Nat → Scan (List Char)
  | 0 => failure
  | bound + 1 => do
      require !(← get).atSeparator
      let _ ← takeWhile fun c => c == ' ' || c == '\t'
      if (← peek).any isBreak then
        let found ← lineBreak
        return found ++ (← quotedBreaks bound)
      else return []

/-- What an escape stands for, after its backslash. An escaped line end
stands for nothing itself. -/
def escape : Scan (List Char) := do
  let c ← ((← peek) : Option Char)
  match namedEscape? c, codeDigits? c with
  | some e, _ =>
      skip
      return [e]
  | none, some digits =>
      skip
      let e ← charOfCode? (← hexNumber digits)
      return [e]
  | none, none =>
      require (isBreak c)
      let _ ← lineBreak
      quotedBreaks ((← get).rest.length + 1)

/-- A gap inside quotes. -/
def quotedGap : Scan (List Char) := do
  let spaces ← takeWhile fun c => c == ' ' || c == '\t'
  if (← peek).any isBreak then
    let first ← lineBreak
    return folded first (← quotedBreaks ((← get).rest.length + 1))
  else return spaces

/-- The inside of a quoted text up to its closing quote. Only double
quotes know escapes; between single quotes, the quote is written
twice. -/
def quotedFrom (quote : Char) : Nat → Scan (List Char)
  | 0 => failure
  | bound + 1 => do
      let c ← ((← peek) : Option Char)
      if c == quote then
        skip
        if quote == '\x27' && (← peek) == some quote then
          skip
          return quote :: (← quotedFrom quote bound)
        else return []
      else if quote == '"' && c == '\\' then
        skip
        let found ← escape
        return found ++ (← quotedFrom quote bound)
      else if endsIndicator (some c) then
        let found ← quotedGap
        return found ++ (← quotedFrom quote bound)
      else
        skip
        return c :: (← quotedFrom quote bound)

/-- A text between quotes, from its opening quote on. -/
def quoted (quote : Char) : Scan (List Char) := do
  skip
  quotedFrom quote ((← get).rest.length + 1)

-- =============================================================== block

/-- What is done with the line ends at the end of a block. -/
inductive Chomping where
  /-- The last line end is kept. -/
  | clip
  /-- None is kept. -/
  | strip
  /-- All are kept. -/
  | keep
deriving DecidableEq

/-- A chomping indicator, if one stands here. -/
def chomping? : Scan (Option Chomping) := do
  match ← peek with
  | some '+' =>
      skip
      return some .keep
  | some '-' =>
      skip
      return some .strip
  | _ => return none

/-- An indentation indicator, if one stands here: a digit, but not
zero. -/
def indentation? : Scan (Option Nat) := do
  match ← peek with
  | some c =>
      if c.isDigit then
        require (c != '0')
        skip
        return some (c.toNat - 48)
      else return none
  | none => return none

/-- The indicators behind the mark of a block, in either order. -/
def blockIndicators : Scan (Chomping × Option Nat) := do
  let early ← chomping?
  let indentation ← indentation?
  let late ← if early.isNone && indentation.isSome then chomping? else pure none
  require (endsWord (← peek))
  return ((early.or late).getD .clip, indentation)

/-- Passes over spaces up to a column. -/
def skipToColumn (column : Nat) : Nat → Scan Unit
  | 0 => pure ()
  | bound + 1 => do
      if (← get).column < column && (← peek) == some ' ' then
        skip
        skipToColumn column bound

/-- The line ends before the next line of a block, which starts at a
column. -/
def blockBreaks (column : Nat) : Nat → Scan (List Char)
  | 0 => pure []
  | bound + 1 => do
      skipToColumn column column
      if (← peek).any isBreak then
        let found ← lineBreak
        return found ++ (← blockBreaks column bound)
      else return []

/-- The line ends before the first line of a block, and the largest
indentation among the lines up to it. -/
def blockLead : Nat → Nat → Scan (List Char × Nat)
  | 0, deepest => return ([], deepest)
  | bound + 1, deepest => do
      match ← peek with
      | some ' ' =>
          skip
          blockLead bound (max deepest (← get).column)
      | some c =>
          if isBreak c then
            let found ← lineBreak
            let (more, deepest') ← blockLead bound deepest
            return (found ++ more, deepest')
          else return ([], deepest)
      | none => return ([], deepest)

/-- The lines of a block from here on, given the line ends before this
one; the result leaves out how the block ends, which is returned as its
last line end and the line ends after that. -/
def blockLines (fold : Bool) (column : Nat) :
    Nat → List Char → List Char → Scan (List Char × List Char × List Char)
  | 0, last, breaks => return ([], last, breaks)
  | bound + 1, last, breaks => do
      if (← get).column != column || (← peek).isNone then
        return ([], last, breaks)
      let flush := !(← peek).any fun c => c == ' ' || c == '\t'
      let line ← takeWhile (!isBreak ·)
      let ending ← lineBreak
      let further ← blockBreaks column ((← get).rest.length + 1)
      if (← get).column == column && (← peek).isSome then
        let flushNext := !(← peek).any fun c => c == ' ' || c == '\t'
        let joint :=
          if fold && ending == ['\n'] && flush && flushNext then
            if further.isEmpty then [' '] else []
          else ending
        let (more, last', breaks') ← blockLines fold column bound ending further
        return (breaks ++ line ++ joint ++ more, last', breaks')
      else return (breaks ++ line, ending, further)

/-- A block text, from its mark on, inside a block whose contents start
at a column. -/
def block (fold : Bool) (outer : Nat) : Scan (List Char) := do
  skip
  let (chomping, indentation) ← blockIndicators
  skipLineEnd
  let least := max outer 1
  let bound := (← get).rest.length + 1
  let (breaks, column) ← match indentation with
    | some n => do
        let column := least + n - 1
        pure (← blockBreaks column bound, column)
    | none => do
        let (breaks, deepest) ← blockLead bound 0
        pure (breaks, max least deepest)
  let (lines, last, further) ← blockLines fold column bound [] breaks
  return lines ++ match chomping with
    | .clip => last
    | .strip => []
    | .keep => last ++ further

end KbDocs.Yaml
