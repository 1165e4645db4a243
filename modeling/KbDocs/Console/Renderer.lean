/-
What puts texts on the screen. Texts are marked up: a reader of markup
gives the plain text that one stands for, unless it makes no sense, and a
layout gives the lines of plain texts and of tables.
-/
namespace KbDocs.Console

/-- A tag that makes no sense where it stands, such as one that closes
nothing. -/
structure MarkupError where
  tag : String
deriving DecidableEq

/-- A table, of which all texts may be marked up. -/
structure Table where
  title : Option String := none
  headings : List String
  rows : List (List String)

/-- The width of the screen in cells. -/
def screenWidth : Nat :=
  200

/-- A reader of markup and a layout for plain texts. -/
structure Renderer where
  /-- The plain text of marked up text. -/
  plain : String → Except MarkupError (List Char)
  /-- The lines that plain text is printed in. -/
  lines : List Char → List (List Char)
  /-- The lines of a table, from the plain texts of its title, of its
  headings and of its rows. -/
  tableLines : Option (List Char) → List (List Char) → List (List (List Char)) →
    List (List Char)

/-- Lines on the screen, each of them ended. -/
def onScreen (lines : List (List Char)) : String :=
  String.ofList (lines.flatMap (· ++ ['\n']))

namespace Renderer

/-- Marked up text as it is printed. -/
def printed (r : Renderer) (s : String) : Except MarkupError String := do
  return onScreen (r.lines (← r.plain s))

/-- A table as it is printed. -/
def printedTable (r : Renderer) (t : Table) : Except MarkupError String := do
  let headings ← t.headings.mapM r.plain
  let rows ← t.rows.mapM (·.mapM r.plain)
  let title ← t.title.mapM r.plain
  return onScreen (r.tableLines title headings rows)

end Renderer

end KbDocs.Console
