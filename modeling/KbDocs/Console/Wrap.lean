/-
Fitting text into a width. Tabs lead to the next multiple of eight
cells; lines that are too long are broken between words. A word that is
itself too long is broken anywhere, or cut with an ellipsis.
-/
import KbDocs.Console.Width
import KbDocs.Text.Blank
import KbDocs.Text.Cut

namespace KbDocs.Console

/-- What is done with a word that is longer than a line. -/
inductive Overflow where
  | fold
  | ellipsis
deriving DecidableEq

/-- Spaces. -/
def blanks (n : Nat) : List Char :=
  List.replicate n ' '

/-- A line with spaces for its tabs, behind a number of cells. -/
def expandTabs (column : Nat) : List Char → List Char
  | [] => []
  | '\t' :: r =>
      let width := 8 - column % 8
      blanks width ++ expandTabs (column + width) r
  | c :: r => c :: expandTabs (column + charCells c) r

-- =============================================================== words

/-- The words of a line with the blanks behind them; the first also has
the blanks before it. A line of blanks has none. -/
def wordsFrom : Nat → List Char → List (List Char)
  | 0, _ => []
  | bound + 1, s =>
      let lead := s.takeWhile Text.isBlank
      let body := (s.drop lead.length).takeWhile fun c => !Text.isBlank c
      let tail := (s.drop (lead.length + body.length)).takeWhile Text.isBlank
      if body.isEmpty then []
      else
        (lead ++ body ++ tail)
          :: wordsFrom bound (s.drop (lead.length + body.length + tail.length))

/-- A text cut into stretches of at most a number of cells, behind a
stretch that takes up some. -/
def chopFrom (width taken : Nat) (stretch : List Char) : List Char → List (List Char)
  | [] => [stretch]
  | c :: r =>
      if width < taken + charCells c then
        stretch :: chopFrom width (charCells c) [c] r
      else chopFrom width (taken + charCells c) (stretch ++ [c]) r

/-- Lines under construction: those that are full, the current one, and
the cells it counts for. -/
structure Lines where
  full : List (List Char) := []
  current : List Char := []
  taken : Nat := 0

/-- A new line, unless nothing was written yet. -/
def Lines.startLine (l : Lines) : Lines :=
  if l.full.isEmpty && l.current.isEmpty then l
  else { full := l.full ++ [l.current] }

/-- Lines with one more stretch, on the current line. -/
def Lines.add (l : Lines) (stretch : List Char) : Lines :=
  { l with current := l.current ++ stretch, taken := l.taken + cells stretch }

/-- Lines with one more word. -/
def Lines.addWord (width : Nat) (overflow : Overflow) (l : Lines) (word : List Char) :
    Lines :=
  let size := cells (Text.trimRight word)
  if l.taken + size ≤ width then l.add word
  else if width < size && overflow == .fold then
    (chopFrom width 0 [] word).foldl (fun l part => l.startLine.add part) l
  else l.startLine.add word

/-- A line broken into lines. Blanks alone are not broken. -/
def breakLine (width : Nat) (overflow : Overflow) (line : List Char) : List (List Char) :=
  let words := wordsFrom (line.length + 1) line
  if words.isEmpty then [line]
  else
    let l := words.foldl (Lines.addWord width overflow) {}
    l.full ++ [l.current]

-- ============================================================= fitting

/-- A line without the blanks at its end that reach past a width. -/
def dropExcess (width : Nat) (line : List Char) : List Char :=
  let trailing := line.length - (Text.trimRight line).length
  line.take (line.length - min trailing (line.length - width))

/-- The start of a line, as much as fits into a number of cells. A cell
that half a character would take is a space. -/
def cropTo (width : Nat) : List Char → List Char
  | [] => []
  | c :: r =>
      if charCells c ≤ width then c :: cropTo (width - charCells c) r
      else blanks width

/-- A line cut to a width. -/
def truncate (width : Nat) (overflow : Overflow) (line : List Char) : List Char :=
  if cells line ≤ width then line
  else
    match overflow with
    | .fold => cropTo width line
    | .ellipsis => cropTo (width - 1) line ++ ['…']

/-- A text in lines that fit into a width. -/
def wrap (width : Nat) (overflow : Overflow) (s : List Char) : List (List Char) :=
  (Text.lines s).flatMap fun line =>
    (breakLine width overflow (expandTabs 0 line)).map fun part =>
      truncate width overflow (dropExcess width part)

/-- A line with spaces behind it up to a width. -/
def padRight (width : Nat) (line : List Char) : List Char :=
  line ++ blanks (width - cells line)

/-- A line in the middle of a width, without the blanks at its end. -/
def centre (width : Nat) (line : List Char) : List Char :=
  let line := Text.trimRight line
  padRight width (blanks ((width - cells line) / 2) ++ line)

end KbDocs.Console
