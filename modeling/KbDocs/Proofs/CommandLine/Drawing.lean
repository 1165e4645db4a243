/-
How tables and lines are drawn from the texts of objects.

A renderer reads the markup of a text and lays out what is left of it. So
a line or a table whose texts appear as they are is drawn from these texts
(`printed_line`, `printed_table`), and what has only texts of one line and
fits on the screen has a line of it (`hasLine_drawnLine`,
`hasLine_drawnTable`).

For the rows and lines that objects and parameters are shown with, this
comes down to the texts of these: what is put around them is literal
(`literal_objectRow_iff`, `literal_parameterRow_iff`,
`plain_signatureLine_iff`).
-/
import KbDocs.CommandLine.View
import KbDocs.Proofs.Console.Renderer

namespace KbDocs.CommandLine

open Console

-- ============================================================= drawing

/-- A line of plain text, broken where it is too long. -/
def drawnLine (r : Renderer) (s : String) : String :=
  onScreen (r.lines s.toList)

/-- A table drawn from its texts as they are. -/
def drawnTable (r : Renderer) (title : Option (List Char)) (t : Table) : String :=
  onScreen (r.tableLines title (t.headings.map String.toList)
    (t.rows.map (·.map String.toList)))

/-- A table whose texts as they are fit on the screen. -/
def Fits (c : Conventions) (t : Table) : Prop :=
  c.tableWidth (t.headings.map String.toList) (t.rows.map (·.map String.toList)) ≤ screenWidth

/-- A table with words as headings, and with a cell under each of them in
every row. -/
structure Regular (t : Table) : Prop where
  headed : t.headings ≠ []
  words : ∀ s ∈ t.headings, s.toList ≠ [] ∧ s.toList.all isOrdinary = true
  even : ∀ row ∈ t.rows, row.length = t.headings.length

/-- The screen has a line of some kind. -/
def HasLine (screen : String) (p : List Char → Prop) : Prop :=
  ∃ lines, screen = onScreen lines ∧ ∃ line ∈ lines, p line

theorem onScreen_append (lines more : List (List Char)) :
    onScreen lines ++ onScreen more = onScreen (lines ++ more) := by
  rw [onScreen, onScreen, onScreen, List.flatMap_append, String.ofList_append]

theorem HasLine.append_left {screen : String} {p : List Char → Prop}
    (h : HasLine screen p) (lines : List (List Char)) :
    HasLine (onScreen lines ++ screen) p := by
  obtain ⟨more, rfl, line, hline, hp⟩ := h
  exact ⟨lines ++ more, onScreen_append lines more, line, List.mem_append_right _ hline, hp⟩

theorem HasLine.append_right {screen : String} {p : List Char → Prop}
    (h : HasLine screen p) (lines : List (List Char)) :
    HasLine (screen ++ onScreen lines) p := by
  obtain ⟨more, rfl, line, hline, hp⟩ := h
  exact ⟨more ++ lines, onScreen_append more lines, line, List.mem_append_left _ hline, hp⟩

theorem mapM_ok {α β : Type} {f : α → Except MarkupError β} {g : α → β} {l : List α}
    (h : ∀ a ∈ l, f a = .ok (g a)) : l.mapM f = .ok (l.map g) := by
  induction l with
  | nil => rfl
  | cons a l ih =>
      obtain ⟨ha, hl⟩ := List.forall_mem_cons.mp h
      rw [List.mapM_cons, ha, ih hl]
      rfl

theorem exists_of_mapM {α β : Type} {f : α → Except MarkupError β} {l : List α} {l' : List β}
    (h : l.mapM f = .ok l') {a : α} (ha : a ∈ l) : ∃ b, f a = .ok b := by
  induction l generalizing l' with
  | nil => cases ha
  | cons x l ih =>
      rw [List.mapM_cons] at h
      obtain ⟨y, hy, h⟩ := exists_of_bind h
      obtain ⟨ys, hys, -⟩ := exists_of_bind h
      rcases List.mem_cons.mp ha with rfl | ha
      · exact ⟨y, hy⟩
      · exact ih hys ha

section Drawing

variable {r : Renderer} {c : Conventions}

theorem printed_line {s t : String} (h : r.plain s = .ok t.toList) :
    r.printed s = .ok (drawnLine r t) := by
  rw [Renderer.printed, h]
  rfl

/-- A line can be printed exactly if it makes sense. -/
theorem printed_ok_iff {s : String} : (∃ t, r.printed s = .ok t) ↔ r.Reads s :=
  exists_return_iff fun t => onScreen (r.lines t)

/-- Of a table that can be printed, all texts make sense. -/
theorem exists_of_printedTable {t : Table} {text : String}
    (h : r.printedTable t = .ok text) :
    ∃ rows title, t.rows.mapM (·.mapM r.plain) = .ok rows
      ∧ t.title.mapM r.plain = .ok title := by
  obtain ⟨headings, -, h⟩ := exists_of_bind h
  obtain ⟨rows, hrows, h⟩ := exists_of_bind h
  obtain ⟨title, htitle, -⟩ := exists_of_bind h
  exact ⟨rows, title, hrows, htitle⟩

theorem reads_of_printedTable {t : Table} {text : String}
    (h : r.printedTable t = .ok text) {row : List String} (hrow : row ∈ t.rows) {s : String}
    (hs : s ∈ row) : r.Reads s := by
  obtain ⟨rows, title, hrows, -⟩ := exists_of_printedTable h
  obtain ⟨cells, hcells⟩ := exists_of_mapM hrows hrow
  exact exists_of_mapM hcells hs

variable (h : r.Follows c)

include h

/-- A table whose cells appear as they are is drawn from its texts. -/
theorem printed_table {t : Table} (ht : Regular t) {title : Option (List Char)}
    (htitle : t.title.mapM r.plain = .ok title)
    (hcells : ∀ row ∈ t.rows, ∀ s ∈ row, r.plain s = .ok s.toList) :
    r.printedTable t = .ok (drawnTable r title t) := by
  have hheadings : t.headings.mapM r.plain = .ok (t.headings.map String.toList) :=
    mapM_ok fun s hs => h.plain_eq_iff.mpr (h.literal_of_ordinary (ht.words s hs).2)
  have hrows : t.rows.mapM (·.mapM r.plain) = .ok (t.rows.map (·.map String.toList)) :=
    mapM_ok fun row hrow => mapM_ok (hcells row hrow)
  rw [Renderer.printedTable, hheadings, hrows, htitle]
  rfl

/-- A text of one line has a line for itself where it fits. -/
theorem hasLine_drawnLine {s : String} (hone : OneLine s.toList)
    (hfits : c.width s.toList ≤ screenWidth) : HasLine (drawnLine r s) (· = s.toList) := by
  rw [drawnLine, h.lines _ hone hfits]
  exact ⟨[s.toList], rfl, s.toList, List.mem_singleton_self _, rfl⟩

/-- So has a row of such texts. -/
theorem hasLine_drawnTable {t : Table} (ht : Regular t) (hfits : Fits c t)
    {row : List String} (hrow : row ∈ t.rows) (hone : ∀ s ∈ row, OneLine s.toList)
    (title : Option (List Char)) :
    HasLine (drawnTable r title t) (IsRow (row.map String.toList)) := by
  have hheaded : t.headings.map String.toList ≠ [] := by simpa using ht.headed
  have hwide : ∀ s ∈ t.headings.map String.toList, 0 < c.width s := by
    refine List.forall_mem_map.mpr fun s hs => ?_
    rw [h.width_of_ordinary (ht.words s hs).2]
    exact List.length_pos_iff.mpr (ht.words s hs).1
  have heven : ∀ cells ∈ t.rows.map (·.map String.toList),
      cells.length = (t.headings.map String.toList).length := by
    refine List.forall_mem_map.mpr fun cells hcells => ?_
    rw [List.length_map, List.length_map, ht.even cells hcells]
  obtain ⟨line, hline, hrows⟩ := h.row title _ _ (row.map String.toList) hheaded hwide heven
    hfits (List.mem_map_of_mem hrow) (List.forall_mem_map.mpr hone)
  exact ⟨_, rfl, line, hline, hrows⟩

end Drawing

-- ============================================================= objects

/-- The line that shows the signature of an object, as it is printed. -/
def signatureLine (s : Signature) : String :=
  "[bold]" ++ s.callText ++ "[/bold]  [dim](" ++ s.origin.label ++ ")[/dim]"

/-- What this line is meant to show. -/
def signatureText (s : Signature) : String :=
  s.callText ++ "  (" ++ s.origin.label ++ ")"

/-- The line for an object without a signature. -/
def unsignedLine (o : KbObject) : String :=
  o.path ++ " (" ++ o.kind ++ ") has no signature"

/-- What the line for an object is meant to show. -/
def objectLine (o : KbObject) : String :=
  match o.signature with
  | none => unsignedLine o
  | some s => signatureText s

/-- The parameters that are shown with the signature of an object. -/
def shownParameters (o : KbObject) : List Parameter :=
  (o.documentation.map (·.parameters)).getD []

theorem regular_objectsTable (kbName : String) (objects : List KbObject) :
    Regular (objectsTable kbName objects) where
  headed := List.cons_ne_nil _ _
  words := by
    have hwords : ∀ s ∈ ["Name", "Kind", "Signature", "Mode", "Documented"],
        s.toList ≠ [] ∧ s.toList.all isOrdinary = true := by
      decide
    exact hwords
  even := List.forall_mem_map.mpr fun _ _ => rfl

theorem regular_parametersTable (parameters : List Parameter) :
    Regular (parametersTable parameters) where
  headed := List.cons_ne_nil _ _
  words := by
    have hwords : ∀ s ∈ ["Name", "Direction", "Type", "Description"],
        s.toList ≠ [] ∧ s.toList.all isOrdinary = true := by
      decide
    exact hwords
  even := List.forall_mem_map.mpr fun _ _ => rfl

section Texts

variable {r : Renderer} {c : Conventions} (h : r.Follows c)

include h

/-- The line shows the call text as it is exactly if that is literal. -/
theorem plain_signatureLine_iff {s : Signature}
    (hlast : s.callText.toList.getLast? ≠ some '\\') :
    r.plain (signatureLine s) = .ok (signatureText s).toList
      ↔ Literal c.shown s.callText.toList := by
  have hbold : StyleName "bold".toList := ⟨by simp, by simp⟩
  have hdim : StyleName "dim".toList := ⟨by simp, by simp⟩
  have hblank : Literal c.shown "  ".toList := h.literal_of_ordinary (by decide)
  have hempty : r.plain "" = .ok [] :=
    h.plain_eq_iff.mpr (h.literal_of_ordinary (by decide))
  have hlabel : Literal c.shown ("(" ++ s.origin.label ++ ")").toList := by
    refine h.literal_of_ordinary ?_
    cases s.origin <;> decide
  have hline : ("  [dim](" ++ s.origin.label ++ ")[/dim]").toList
      = "  ".toList ++ styled "dim".toList ("(" ++ s.origin.label ++ ")").toList
          "".toList := by
    cases s.origin <;> rfl
  have hrest : r.plain ("  [dim](" ++ s.origin.label ++ ")[/dim]")
      = .ok ("  ".toList ++ ("(" ++ s.origin.label ++ ")").toList ++ []) := by
    refine (h.plain_styled_iff hline hdim hblank (by decide) ?_ hempty).mpr hlabel
    cases s.origin <;> decide
  have hsignature : (signatureLine s).toList = [] ++ styled "bold".toList s.callText.toList
      ("  [dim](" ++ s.origin.label ++ ")[/dim]").toList := by
    simp [signatureLine, styled]
  have htext : (signatureText s).toList = [] ++ s.callText.toList
      ++ ("  ".toList ++ ("(" ++ s.origin.label ++ ")").toList ++ []) := by
    simp [signatureText]
  rw [htext]
  exact h.plain_styled_iff hsignature hbold (h.literal_of_ordinary rfl) (by simp) hlast hrest

/-- Warnings can be printed exactly if they make sense. -/
theorem printed_warning_iff {w : String} :
    (∃ t, r.printed ("[yellow]Warning:[/yellow] " ++ w) = .ok t) ↔ r.Reads w := by
  have hyellow : StyleName "yellow".toList := ⟨by simp, by simp⟩
  have hline : ("[yellow]Warning:[/yellow] " ++ w).toList
      = styled "yellow".toList "Warning:".toList (' ' :: w.toList) := by
    simp [styled]
  rw [printed_ok_iff]
  exact h.reads_styled_iff hline hyellow (by decide) (untagged_of_not_mem (by decide))

theorem literal_label (origin : Origin) : Literal c.shown origin.label.toList := by
  refine h.literal_of_ordinary ?_
  cases origin <;> decide

theorem literal_documentedLabel (o : KbObject) :
    Literal c.shown (documentedLabel o).toList := by
  refine h.literal_of_ordinary ?_
  rw [documentedLabel]
  split <;> decide

theorem literal_dash : Literal c.shown "-".toList :=
  h.literal_of_ordinary (by decide)

theorem literal_orDash_iff {s : String} :
    Literal c.shown (orDash s).toList ↔ Literal c.shown s.toList := by
  rw [orDash]
  split
  case isTrue hempty =>
    subst hempty
    exact iff_of_true (literal_dash h) (h.literal_of_ordinary rfl)
  case isFalse => rfl

theorem literal_objectRow_iff {o : KbObject} :
    (∀ cell ∈ objectRow o, Literal c.shown cell.toList)
      ↔ Literal c.shown o.path.toList ∧ Literal c.shown o.kind.toList
        ∧ ∀ s, o.signature = some s → Literal c.shown s.callText.toList := by
  rw [objectRow]
  simp only [List.forall_mem_cons, List.not_mem_nil, false_imp_iff, implies_true, and_true,
    literal_documentedLabel h]
  cases o.signature with
  | none =>
      refine ⟨fun hall => ⟨hall.1, hall.2.1, fun s hs => by cases hs⟩, fun hall => ?_⟩
      exact ⟨hall.1, hall.2.1, literal_dash h, literal_dash h⟩
  | some s =>
      refine ⟨fun hall => ⟨hall.1, hall.2.1, fun _ hs => ?_⟩, fun hall => ?_⟩
      · cases hs
        exact hall.2.2.1
      · exact ⟨hall.1, hall.2.1, hall.2.2 s rfl, literal_label h s.origin⟩

theorem literal_parameterRow_iff {p : Parameter} :
    (∀ cell ∈ parameterRow p, Literal c.shown cell.toList)
      ↔ Literal c.shown p.name.toList ∧ Literal c.shown p.direction.toList
        ∧ Literal c.shown p.type.toList ∧ Literal c.shown p.description.toList := by
  rw [parameterRow]
  simp only [List.forall_mem_cons, List.not_mem_nil, false_imp_iff, implies_true, and_true,
    literal_orDash_iff h]

end Texts

end KbDocs.CommandLine
