/-
The tables of the pages, and when they keep their shape.

Five tables are written: the parameters on the page of a procedure, the
procedures on the page of a package, and the kinds, the packages and the
objects on the overview. Their lines come about in five places; here each
table is given by its cells (`parameterTable` and its four siblings), and
its lines are found in the text of its page (`StandsIn`).

Cells have the texts of the export as they are. Only the names of
packages have passed through `fileName`, which leaves no bar in them. So
whether a table keeps its shape is up to the export, and
`tables_keepShape_iff` says what it takes, table by table.
-/
import KbDocs.Proofs.Page.Table
import KbDocs.Proofs.Site.Plan

namespace KbDocs.Page

-- ========================================================= five tables

/-- The parameters of a procedure. -/
def parameterTable (parameters : List Parameter) : Table where
  columns := ["Name", "Direction", "Type", "Description"]
  rows := parameters.map fun p => [orPlaceholder p.name "-", orPlaceholder p.direction "IN",
    orPlaceholder p.type "-", orPlaceholder p.description "-"]
  headed := by decide
  filled := List.forall_mem_map.mpr fun _ _ => rfl

/-- The procedures of a package. -/
def indexTable (procedures : List KbObject) : Table where
  columns := ["Procedure", "Summary"]
  rows := procedures.map fun o => [link o.path (ofObject o), title o]
  headed := by decide
  filled := List.forall_mem_map.mpr fun _ _ => rfl

/-- Texts, and how often each of them occurs. -/
def countTable (first second : String) (headed : ∀ column ∈ [first, second], CellText column)
    (cell : String → String) (keys : List String) : Table where
  columns := [first, second]
  rows := (tally keys).map fun e => [cell e.1, toString e.2]
  headed := headed
  filled := List.forall_mem_map.mpr fun _ _ => rfl

/-- How many objects there are of each kind. -/
def statisticsTable (objects : List KbObject) : Table :=
  countTable "Type" "Count" (by decide) id (objects.map kindLabel)

/-- How many procedures the overview counts in each package. -/
def packageTable (objects : List KbObject) : Table :=
  countTable "Package" "Procedures" (by decide) (fun package => link package package)
    (countedPackages objects)

/-- All objects. -/
def objectTable (objects : List KbObject) : Table where
  columns := ["Name", "Type", "Path"]
  rows := objects.map fun o => [orPlaceholder o.name "*unnamed*", kindLabel o,
    "`" ++ orPlaceholder o.path "-" ++ "`"]
  headed := by decide
  filled := List.forall_mem_map.mpr fun _ _ => rfl

-- ---------------------------------------------------- in their sections

/-- The lines of a table whose rows are written one by one. -/
theorem Table.lines_eq {α : Type} {t : Table} {items : List α} {cells : α → List String}
    {row : α → String} (hrows : t.rows = items.map cells)
    (hrow : ∀ a, row a = rowText (cells a)) :
    t.lines = rowText t.columns :: ruleText t.columns :: items.map row := by
  rw [Table.lines, hrows, List.map_map, List.map_congr_left fun a _ => hrow a]
  rfl

theorem parameterRow_eq (p : Parameter) :
    parameterRow p = rowText [orPlaceholder p.name "-", orPlaceholder p.direction "IN",
      orPlaceholder p.type "-", orPlaceholder p.description "-"] := by
  rw [← String.toList_inj]
  simp [parameterRow, rowText, barred]

theorem parameterLines_eq {doc : DocComment} (h : doc.parameters ≠ []) :
    parameterLines doc
      = ["## Parameters\n"] ++ ((parameterTable doc.parameters).lines ++ [""]) := by
  rw [parameterLines, if_neg (by simpa using h), Table.lines_eq rfl parameterRow_eq]
  rfl

theorem packagePage_eq (package : String) (ps : List KbObject) :
    packagePage package ps = ofLines (["# Package: " ++ package ++ "\n"] ++ ["## Procedures\n"]
      ++ ((indexTable ps).lines ++ ["\n---", footer])) := by
  have hrow : ∀ o, indexRow o = rowText [link o.path (ofObject o), title o] := by
    intro o
    rw [← String.toList_inj]
    simp [indexRow, rowText, barred]
  rw [packagePage, Table.lines_eq rfl hrow]
  rfl

section Counts

variable (first second : String) (headed : ∀ column ∈ [first, second], CellText column)
  (cell : String → String) (keys : List String)

theorem lines_countTable :
    (countTable first second headed cell keys).lines
      = rowText [first, second] :: ruleText [first, second] :: (tally keys).map fun e =>
        "| " ++ cell e.1 ++ " | " ++ toString e.2 ++ " |" := by
  have hrow : ∀ e : String × Nat, "| " ++ cell e.1 ++ " | " ++ toString e.2 ++ " |"
      = rowText [cell e.1, toString e.2] := by
    intro e
    rw [← String.toList_inj]
    simp [rowText, barred]
  exact Table.lines_eq rfl hrow

theorem rows_countTable :
    (countTable first second headed cell keys).rows
      = (sortedKeys keys).map fun k => [cell k, toString (keys.count k)] := by
  have hrows : (countTable first second headed cell keys).rows
      = (tally keys).map fun e => [cell e.1, toString e.2] := rfl
  rw [hrows, tally, List.map_map]
  rfl

theorem length_rows_countTable :
    (countTable first second headed cell keys).rows.length = keys.dedup.length := by
  rw [rows_countTable, List.length_map, length_sortedKeys]

end Counts

section Sections

variable {objects : List KbObject}

theorem statisticsLines_eq (h : objects ≠ []) :
    statisticsLines objects
      = ["## Object Statistics\n"] ++ ((statisticsTable objects).lines ++ [""]) := by
  rw [statisticsLines, if_neg (by simpa using h), statisticsTable, lines_countTable]
  rfl

theorem packagesLines_eq (h : countedPackages objects ≠ []) :
    packagesLines objects
      = ["## Packages\n"] ++ ((packageTable objects).lines ++ [""]) := by
  rw [packagesLines]
  dsimp only
  rw [if_neg (by simpa using h), packageTable, lines_countTable]
  rfl

theorem objectLines_eq (h : objects ≠ []) : objectLines objects = (objectTable objects).lines := by
  have hrow : ∀ o, objectRow o = rowText [orPlaceholder o.name "*unnamed*", kindLabel o,
      "`" ++ orPlaceholder o.path "-" ++ "`"] := by
    intro o
    rw [← String.toList_inj]
    simp [objectRow, rowText, barred]
  rw [objectLines, if_neg (by simpa using h), Table.lines_eq rfl hrow]
  rfl

end Sections

-- ------------------------------------------------------ on their pages

theorem standsIn_procedurePage {o : KbObject} {doc : DocComment}
    (hdoc : o.documentation = some doc) (h : doc.parameters ≠ []) :
    (parameterTable doc.parameters).StandsIn (procedurePage o) := by
  have hsection : docLines o parameterLines
      = ["## Parameters\n"] ++ ((parameterTable doc.parameters).lines ++ [""]) := by
    rw [docLines, hdoc]
    exact parameterLines_eq h
  have hpage : procedurePage o = ofLines ((["# " ++ title o ++ "\n"] ++ docLines o packageLines
      ++ signatureLines o ++ docLines o deprecationLines ++ descriptionLines o)
      ++ ["## Parameters\n"] ++ ((parameterTable doc.parameters).lines
      ++ ([""] ++ docLines o returnLines ++ ["---\n"] ++ docLines o creditLines
      ++ ["", footer]))) := by
    rw [procedurePage, hsection]
    simp only [List.append_assoc]
  rw [hpage]
  exact Table.standsIn_ofLines _ _ (by decide) (by simp)

theorem standsIn_packagePage (package : String) (ps : List KbObject) :
    (indexTable ps).StandsIn (packagePage package ps) := by
  rw [packagePage_eq]
  exact Table.standsIn_ofLines _ _ (by decide) (by simp)

section Overview

variable {objects : List KbObject}

/-- The lines at the top of an overview. -/
def overviewTop (objects : List KbObject) (kbName : String) (generatedAt : Timestamp) :
    List String :=
  [if kbName = "" then "# GeneXus Documentation\n" else "# " ++ kbName ++ " Documentation\n",
    "Generated on: " ++ generatedAt.text ++ "\n",
    "Total Objects: **" ++ toString objects.length ++ "**\n"]

theorem statisticsTable_standsIn (h : objects ≠ []) (kbName : String)
    (generatedAt : Timestamp) :
    (statisticsTable objects).StandsIn (overview objects kbName generatedAt) := by
  have hpage : overview objects kbName generatedAt
      = ofLines (overviewTop objects kbName generatedAt ++ ["## Object Statistics\n"]
        ++ ((statisticsTable objects).lines ++ ([""] ++ packagesLines objects
        ++ ["## Extracted Objects\n"] ++ objectLines objects ++ ["\n---", footer]))) := by
    rw [overview, statisticsLines_eq h]
    simp only [List.append_assoc, overviewTop]
  rw [hpage]
  exact Table.standsIn_ofLines _ _ (by decide) (by simp)

theorem packageTable_standsIn (h : countedPackages objects ≠ []) (kbName : String)
    (generatedAt : Timestamp) :
    (packageTable objects).StandsIn (overview objects kbName generatedAt) := by
  have hpage : overview objects kbName generatedAt
      = ofLines ((overviewTop objects kbName generatedAt ++ statisticsLines objects)
        ++ ["## Packages\n"] ++ ((packageTable objects).lines ++ ([""]
        ++ ["## Extracted Objects\n"] ++ objectLines objects ++ ["\n---", footer]))) := by
    rw [overview, packagesLines_eq h]
    simp only [List.append_assoc, overviewTop]
  rw [hpage]
  exact Table.standsIn_ofLines _ _ (by decide) (by simp)

theorem objectTable_standsIn (h : objects ≠ []) (kbName : String) (generatedAt : Timestamp) :
    (objectTable objects).StandsIn (overview objects kbName generatedAt) := by
  have hpage : overview objects kbName generatedAt
      = ofLines ((overviewTop objects kbName generatedAt ++ statisticsLines objects
        ++ packagesLines objects) ++ ["## Extracted Objects\n"]
        ++ ((objectTable objects).lines ++ ["\n---", footer])) := by
    rw [overview, objectLines_eq h]
    simp only [List.append_assoc, overviewTop]
  rw [hpage]
  exact Table.standsIn_ofLines _ _ (by decide) (by simp)

end Overview

-- ============================================================== shapes

/-- A file name is on one line if the text that it is made from is. -/
theorem oneLine_fileName {text fallback : String} (h : OneLine fallback)
    (htext : OneLine text) : OneLine (fileName text fallback) := by
  rw [fileName]
  split
  case isTrue => exact h
  case isFalse =>
    rw [oneLine_iff] at htext
    rw [oneLine_iff, String.toList_ofList]
    -- a hyphen is no line break, and all other characters are of the text
    have hkept : ∀ c, c ≠ '-' → c ∉ text.toList → c ∉ (Text.trim text.toList).map fun c =>
        if unsafeChars.contains c then '-' else c := by
      intro c hc habsent hmem
      obtain ⟨d, hd, hdc⟩ := List.mem_map.mp hmem
      split at hdc
      · exact hc hdc.symm
      · exact habsent (hdc ▸ Text.mem_of_mem_trim hd)
    exact ⟨hkept _ (by decide) htext.1, hkept _ (by decide) htext.2⟩

section Shapes

variable {objects : List KbObject}

theorem keepsShape_parameterTable {parameters : List Parameter} :
    (parameterTable parameters).KeepsShape ↔ ∀ p ∈ parameters, CellText p.name
      ∧ CellText p.direction ∧ CellText p.type ∧ CellText p.description := by
  rw [Table.keepsShape_iff, parameterTable, List.forall_mem_map]
  refine forall₂_congr fun p _ => ?_
  simp [cellText_orPlaceholder (by decide : CellText "-"),
    cellText_orPlaceholder (by decide : CellText "IN")]

theorem keepsShape_indexTable {ps : List KbObject} :
    (indexTable ps).KeepsShape ↔ ∀ o ∈ ps, CellText o.path ∧ CellText (title o) := by
  have hname : ∀ o : KbObject, CellText o.path → CellText (ofObject o) := by
    intro o hpath
    exact cellText_of_oneLine ((pageName_ofObject o).safe '|' (by decide))
      (oneLine_fileName (by decide) hpath.1)
  rw [Table.keepsShape_iff, indexTable, List.forall_mem_map]
  refine forall₂_congr fun o _ => ?_
  rw [List.forall_mem_cons, List.forall_mem_singleton, cellText_link,
    and_iff_left_of_imp (hname o)]

theorem keepsShape_countTable {first second : String}
    {headed : ∀ column ∈ [first, second], CellText column} {cell : String → String}
    {keys : List String} :
    (countTable first second headed cell keys).KeepsShape ↔ ∀ k ∈ keys, CellText (cell k) := by
  rw [Table.keepsShape_iff, rows_countTable, List.forall_mem_map]
  refine forall_congr' fun k => ?_
  rw [mem_sortedKeys, List.forall_mem_cons, List.forall_mem_singleton,
    and_iff_left (cellText_toString _)]

theorem cellText_kindLabel {o : KbObject} : CellText (kindLabel o) ↔ CellText o.kind :=
  cellText_orPlaceholder (by decide)

theorem keepsShape_statisticsTable :
    (statisticsTable objects).KeepsShape ↔ ∀ o ∈ objects, CellText o.kind := by
  rw [statisticsTable, keepsShape_countTable, List.forall_mem_map]
  exact forall₂_congr fun o _ => cellText_kindLabel

/-- Names of packages have no bars. -/
theorem keepsShape_packageTable :
    (packageTable objects).KeepsShape
      ↔ ∀ package ∈ countedPackages objects, OneLine package := by
  rw [packageTable, keepsShape_countTable]
  refine forall₂_congr fun package hpackage => ?_
  obtain ⟨o, -, rfl⟩ := List.mem_map.mp hpackage
  rw [cellText_link, and_self]
  exact ⟨And.left, cellText_of_oneLine ((pageName_packageOf o).safe '|' (by decide))⟩

theorem keepsShape_objectTable :
    (objectTable objects).KeepsShape
      ↔ ∀ o ∈ objects, CellText o.name ∧ CellText o.kind ∧ CellText o.path := by
  rw [Table.keepsShape_iff, objectTable, List.forall_mem_map]
  refine forall₂_congr fun o _ => ?_
  simp [cellText_orPlaceholder (by decide : CellText "*unnamed*"), cellText_kindLabel,
    cellText_orPlaceholder (by decide : CellText "-"), cellText_code]

end Shapes

/-- The tables stand in their pages with a row for each parameter,
procedure, kind, package and object. Each keeps its shape exactly if the
texts in its cells have neither line breaks nor separators; names of
packages have no separators in any case. -/
theorem tables_keepShape_iff {o : KbObject} {doc : DocComment}
    (hdoc : o.documentation = some doc) (package : String) (ps objects : List KbObject)
    (kbName : String) (generatedAt : Timestamp) :
    -- the parameters on the page of a procedure
    ((doc.parameters ≠ [] → (parameterTable doc.parameters).StandsIn (procedurePage o))
      ∧ (parameterTable doc.parameters).rows.length = doc.parameters.length
      ∧ ((parameterTable doc.parameters).KeepsShape ↔ ∀ p ∈ doc.parameters, CellText p.name
        ∧ CellText p.direction ∧ CellText p.type ∧ CellText p.description))
    -- the procedures on the page of a package
    ∧ ((indexTable ps).StandsIn (packagePage package ps)
      ∧ (indexTable ps).rows.length = ps.length
      ∧ ((indexTable ps).KeepsShape ↔ ∀ o ∈ ps, CellText o.path ∧ CellText (title o)))
    -- the kinds, the packages and the objects on the overview
    ∧ ((objects ≠ [] →
        (statisticsTable objects).StandsIn (overview objects kbName generatedAt))
      ∧ (statisticsTable objects).rows.length = (objects.map kindLabel).dedup.length
      ∧ ((statisticsTable objects).KeepsShape ↔ ∀ o ∈ objects, CellText o.kind))
    ∧ ((countedPackages objects ≠ [] →
        (packageTable objects).StandsIn (overview objects kbName generatedAt))
      ∧ (packageTable objects).rows.length = (countedPackages objects).dedup.length
      ∧ ((packageTable objects).KeepsShape
        ↔ ∀ package ∈ countedPackages objects, OneLine package))
    ∧ ((objects ≠ [] →
        (objectTable objects).StandsIn (overview objects kbName generatedAt))
      ∧ (objectTable objects).rows.length = objects.length
      ∧ ((objectTable objects).KeepsShape
        ↔ ∀ o ∈ objects, CellText o.name ∧ CellText o.kind ∧ CellText o.path)) :=
  ⟨⟨standsIn_procedurePage hdoc, List.length_map _, keepsShape_parameterTable⟩,
    ⟨standsIn_packagePage package ps, List.length_map _, keepsShape_indexTable⟩,
    ⟨fun h => statisticsTable_standsIn h kbName generatedAt, length_rows_countTable ..,
      keepsShape_statisticsTable⟩,
    ⟨fun h => packageTable_standsIn h kbName generatedAt, length_rows_countTable ..,
      keepsShape_packageTable⟩,
    ⟨fun h => objectTable_standsIn h kbName generatedAt, List.length_map _,
      keepsShape_objectTable⟩⟩

/-- A procedure whose parameter is described by some text. -/
def describedProcedure (description : String) : KbObject :=
  { name := "P", kind := "Procedure", path := "P", documentation := some
      { parameters := [{ name := "A", type := "Character", description := description }] } }

/-- A bar behind a backslash is no separator, so the table on the page
keeps its shape. -/
theorem tables_keepShape_escaped :
    (parameterTable [{ name := "A", type := "Character", description := "a\\|b" }]).StandsIn
        (procedurePage (describedProcedure "a\\|b"))
      ∧ (parameterTable
        [{ name := "A", type := "Character", description := "a\\|b" }]).KeepsShape := by
  have h := (tables_keepShape_iff (o := describedProcedure "a\\|b") rfl "root" [] [] "KB"
    ⟨2025, 11, 13, 10, 30, 0⟩).1
  exact ⟨h.1 (by simp), h.2.2.mpr (by decide)⟩

/-- A bar in the description of a parameter makes a sixth separator where
the headings have five, and a line break makes a second line. -/
theorem not_keepsShape_described :
    separators (rowText (parameterTable []).columns).toList = 5
      ∧ separators (parameterRow ⟨"A", "IN", "Character", "a|b"⟩).toList = 6
      ∧ ¬ (parameterTable [⟨"A", "IN", "Character", "a|b"⟩]).KeepsShape
      ∧ physicalLines (parameterRow ⟨"A", "IN", "Character", "a\nb"⟩).toList
        = ["| A | IN | Character | a".toList, "b |".toList]
      ∧ ¬ (parameterTable [⟨"A", "IN", "Character", "a\nb"⟩]).KeepsShape := by
  refine ⟨by decide, ?_, ?_, ?_, ?_⟩
  · rw [parameterRow_eq]
    simp only [separators_rowText_cons, separators_rowText_nil]
    decide
  · rw [keepsShape_parameterTable]
    decide
  · rw [parameterRow_eq, rowText, barred, String.toList_ofList]
    decide
  · rw [keepsShape_parameterTable]
    decide

end KbDocs.Page
