/-
Tables on the screen: a heading in heavy lines, the rows in light ones,
and a title over the middle. Each column is as wide as the widest line
of its cells, with a space on both sides; a cell of several lines makes
a row of several lines.
-/
import KbDocs.Console.Markup
import KbDocs.Console.Wrap

namespace KbDocs.Console

-- ============================================================== layout

/-- Whether a character ends a line when the width of a cell is taken. -/
def endsMeasuredLine (c : Char) : Bool :=
  let n := c.toNat
  n == 10 || (28 ≤ n && n ≤ 30) || n == 0x85 || n == 0x2028 || n == 0x2029

/-- The cells of the widest line of a text, behind a line under
construction. -/
def widestFrom (line : List Char) : List Char → Nat
  | [] => cells line
  | c :: r =>
      if endsMeasuredLine c then max (cells line) (widestFrom [] r)
      else widestFrom (line ++ [c]) r

/-- The width of a column without the spaces at its sides, by the width of
its texts. -/
def columnWidth (width : List Char → Nat) (column : List (List Char)) : Nat :=
  (column.map width).foldl max 0

/-- The widths of all columns. -/
def columnWidths (width : List Char → Nat) (rows : List (List (List Char))) : Nat → List Nat
  | 0 => []
  | n + 1 =>
      columnWidth width (rows.filterMap List.head?)
        :: columnWidths width (rows.map List.tail) n

/-- The width of a table with columns of some widths: there are spaces
around each, and lines around all. -/
def totalWidth (widths : List Nat) : Nat :=
  (widths.map (· + 3)).foldl (· + ·) 1

/-- The characters that a line of a table is drawn with. -/
structure Rule where
  left : Char
  divider : Char
  right : Char

/-- A line across a table. -/
def ruleLine (r : Rule) (line : Char) (widths : List Nat) : List Char :=
  let parts := widths.map fun w => List.replicate (w + 2) line
  r.left :: Text.join [r.divider] parts ++ [r.right]

/-- One line of a row. -/
def rowLine (r : Rule) (widths : List Nat) (texts : List (List Char)) : List Char :=
  let parts := (widths.zip texts).map fun (w, t) => ' ' :: padRight w t ++ [' ']
  r.left :: Text.join [r.divider] parts ++ [r.right]

/-- The lines of a row: as many as the cell with most of them has. -/
def rowLines (r : Rule) (widths : List Nat) (row : List (List Char)) : List (List Char) :=
  let wrapped := (widths.zip row).map fun (w, t) => wrap w .ellipsis t
  let height := (wrapped.map List.length).foldl max 1
  (List.range height).map fun i =>
    rowLine r widths (wrapped.map fun lines => (lines[i]?).getD [])

-- ============================================================= drawing

/-- The lines of a table whose texts are plain. -/
def Table.lines (title : Option (List Char)) (headings : List (List Char))
    (rows : List (List (List Char))) : List (List Char) :=
  let widths := columnWidths (widestFrom []) (headings :: rows) headings.length
  let total := totalWidth widths
  let above := (title.map fun t => (wrap total .fold t).map (centre total)).getD []
  above
    ++ [ruleLine ⟨'┏', '┳', '┓'⟩ '━' widths]
    ++ rowLines ⟨'┃', '┃', '┃'⟩ widths headings
    ++ [ruleLine ⟨'┡', '╇', '┩'⟩ '━' widths]
    ++ rows.flatMap (rowLines ⟨'│', '│', '│'⟩ widths)
    ++ [ruleLine ⟨'└', '┴', '┘'⟩ '─' widths]

/-- A renderer for a screen without styles. -/
def Renderer.basic : Renderer where
  plain := plainText
  lines := wrap screenWidth .fold
  tableLines := Table.lines

end KbDocs.Console
