/-
The overview page of a knowledge base: how many objects there are, how
many of each kind and in each package, and a list of all of them.
Groupings are sorted by their keys, so they do not depend on the order
of the objects.
-/
import KbDocs.Export.Kind
import KbDocs.Page.Name

namespace KbDocs.Page

/-- A point in time, to the second. -/
structure Timestamp where
  year : Nat
  month : Nat
  day : Nat
  hour : Nat
  minute : Nat
  second : Nat

/-- A number with at least two digits. -/
def twoDigits (n : Nat) : String :=
  if n < 10 then "0" ++ toString n else toString n

/-- The text of a point in time. -/
def Timestamp.text (t : Timestamp) : String :=
  toString t.year ++ "-" ++ twoDigits t.month ++ "-" ++ twoDigits t.day ++ " "
    ++ twoDigits t.hour ++ ":" ++ twoDigits t.minute ++ ":" ++ twoDigits t.second

/-- Texts in the order of their code points, each once. -/
def sortedKeys (keys : List String) : List String :=
  keys.eraseDups.mergeSort fun a b => decide (a ≤ b)

/-- How often each text occurs, in the order of their code points. -/
def tally (keys : List String) : List (String × Nat) :=
  (sortedKeys keys).map fun k => (k, keys.count k)

/-- The kind an object is counted under. -/
def kindLabel (o : KbObject) : String :=
  orPlaceholder o.kind "Unknown"

/-- Whether an object is a procedure. -/
def isProcedure (o : KbObject) : Bool :=
  o.kind == Export.procedureKind

/-- The packages that the overview counts: those of procedures with
documentation. -/
def countedPackages (objects : List KbObject) : List String :=
  (objects.filter fun o => isProcedure o && o.documentation.isSome).map packageOf

/-- The section on kinds. -/
def statisticsLines (objects : List KbObject) : List String :=
  if objects.isEmpty then []
  else
    ["## Object Statistics\n", "| Type | Count |", "|------|-------|"]
      ++ (tally (objects.map kindLabel)).map
        (fun (kind, n) => "| " ++ kind ++ " | " ++ toString n ++ " |")
      ++ [""]

/-- The section on packages. -/
def packagesLines (objects : List KbObject) : List String :=
  let packages := countedPackages objects
  if packages.isEmpty then []
  else
    ["## Packages\n", "| Package | Procedures |", "|---------|------------|"]
      ++ (tally packages).map
        (fun (package, n) =>
          "| " ++ link package package ++ " | " ++ toString n ++ " |")
      ++ [""]

/-- The row of an object. -/
def objectRow (o : KbObject) : String :=
  "| " ++ orPlaceholder o.name "*unnamed*" ++ " | " ++ kindLabel o ++ " | `"
    ++ orPlaceholder o.path "-" ++ "` |"

/-- The list of all objects. -/
def objectLines (objects : List KbObject) : List String :=
  if objects.isEmpty then ["*No objects found in the XPZ file.*"]
  else ["| Name | Type | Path |", "|------|------|------|"] ++ objects.map objectRow

/-- The overview page. -/
def overview (objects : List KbObject) (kbName : String) (generatedAt : Timestamp) : String :=
  ofLines ([if kbName = "" then "# GeneXus Documentation\n"
      else "# " ++ kbName ++ " Documentation\n",
    "Generated on: " ++ generatedAt.text ++ "\n",
    "Total Objects: **" ++ toString objects.length ++ "**\n"]
    ++ statisticsLines objects ++ packagesLines objects ++ ["## Extracted Objects\n"]
    ++ objectLines objects ++ ["\n---", footer])

end KbDocs.Page
