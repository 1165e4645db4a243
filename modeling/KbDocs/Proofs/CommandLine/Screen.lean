/-
Whether the screen shows what was extracted.

Tables and lines for the screen are put together from texts of the
export, and all of it is then read as markup. So the screen shows the
texts as they are exactly if these are literal, and a command gets to its
end at all exactly if, besides, what else comes from the export makes
sense as markup: `faithful_iff_literalTexts` says so of every extraction
and of every renderer that does what is documented of one.

# What the screen shows

A table is drawn, and a line is broken, from plain texts. `Faithful` asks
for the plain texts to be the texts of the objects, and for the screen to
hold what is drawn from them (`drawnTable`, `drawnObject`). Texts of one
line can then be read off single lines of it, unless the screen is too
narrow.
-/
import KbDocs.Proofs.CommandLine.Drawing
import KbDocs.Proofs.CommandLine.Printing
import KbDocs.Proofs.Export.Documentation
import KbDocs.Proofs.Extraction.Fold
import KbDocs.Proofs.Signature.CallText

namespace KbDocs.CommandLine

open Console Files

-- ============================================================ commands

/-- The table of some parameters, of which there may be none. -/
def parametersText (r : Renderer) (ps : List Parameter) : Except MarkupError String :=
  if ps.isEmpty then .ok "" else r.printedTable (parametersTable ps)

/-- What is printed of an object. -/
def objectText (r : Renderer) (o : KbObject) : Except MarkupError String :=
  match o.signature with
  | none => r.printed (unsignedLine o)
  | some s => both (r.printed (signatureLine s)) (parametersText r (shownParameters o))

/-- What is meant to be on the screen for an object. -/
def drawnObject (r : Renderer) (o : KbObject) : String :=
  match o.signature with
  | none => drawnLine r (unsignedLine o)
  | some s =>
      drawnLine r (signatureText s)
        ++ if (shownParameters o).isEmpty then ""
          else drawnTable r none (parametersTable (shownParameters o))

theorem prints_describe (tools : Tools) (o : KbObject) :
    Prints (Run.describe tools o) (objectText tools.screen o) := by
  unfold Run.describe objectText
  cases o.signature with
  | none => exact prints_print _
  | some s =>
      refine (prints_print _).seq ?_
      unfold parametersText shownParameters
      cases o.documentation with
      | none => exact prints_nothing
      | some d =>
          rw [Option.map_some, Option.getD_some]
          by_cases hempty : d.parameters.isEmpty = true
          · simp only [hempty, Bool.not_true, Bool.false_eq_true, if_false, if_true]
            exact prints_nothing
          · simp only [hempty, Bool.not_false, Bool.false_eq_true, if_false, if_true]
            exact prints_print _

section Commands

variable {tools : Tools} {tree : FileTree} {input : String} {config : Option String}
  {x : Extraction} (h : Extracts tree input config x tools)

include h

/-- Listing objects ends well exactly if their table can be printed. -/
theorem ended_list_iff (now : Page.Timestamp) (verbose : Bool) (t : String) :
    Ended (Outcome.ofRun verbose tree (Run.command tools now (.extract input false config))) t
      ↔ tools.screen.printedTable (objectsTable x.kbName x.objects) = .ok t := by
  obtain ⟨s, hscreen, hrun⟩ := h.run
  exact ended_iff (hrun _) hscreen (prints_print _) verbose t

/-- Showing an object that is found ends well exactly if the object can be
printed. -/
theorem ended_signature_iff {name : String} {o : KbObject}
    (ho : findObject? x.objects name = some o) (now : Page.Timestamp) (verbose : Bool)
    (t : String) :
    Ended (Outcome.ofRun verbose tree
        (Run.command tools now (.signature input name false config))) t
      ↔ objectText tools.screen o = .ok t := by
  obtain ⟨s, hscreen, hrun⟩ := h.run
  refine ended_iff (hrun _) hscreen ?_ verbose t
  simp only [ho]
  exact prints_describe tools o

/-- An object with a text that begins with a closing tag makes listing end
in an error that nothing handles. -/
theorem escaped_list_of_unopened {c : Conventions} (hscreen : tools.screen.Follows c)
    {o : KbObject} (ho : o ∈ x.objects) {cell : String} (hcell : cell ∈ objectRow o)
    {inside : List Char} {rest : List (List Char)}
    (htags : tags cell.toList = ('/' :: inside) :: rest) (now : Page.Timestamp)
    (verbose : Bool) :
    ∃ e, (Outcome.ofRun verbose tree
      (Run.command tools now (.extract input false config))).escaped = some (.markup e) := by
  obtain ⟨s, -, hrun⟩ := h.run
  cases hprinted : tools.screen.printedTable (objectsTable x.kbName x.objects) with
  | error e => exact ⟨e, escaped_of_prints (hrun _) (prints_print _) verbose hprinted⟩
  | ok text =>
      have hrow : objectRow o ∈ (objectsTable x.kbName x.objects).rows :=
        List.mem_map_of_mem ho
      have hreads := reads_of_printedTable hprinted hrow hcell
      exact absurd hreads (hscreen.unopened cell inside rest htags)

end Commands

-- ======================================================== faithfulness

/-- The markup leaves the texts that are shown of what was extracted as
they are: the cells of tables, and the lines that objects are shown
with. -/
structure Verbatim (r : Renderer) (x : Extraction) : Prop where
  objectCells : ∀ o ∈ x.objects, ∀ cell ∈ objectRow o, r.plain cell = .ok cell.toList
  signatures : ∀ name o s, findObject? x.objects name = some o → o.signature = some s →
    r.plain (signatureLine s) = .ok (signatureText s).toList
  unsigned : ∀ name o, findObject? x.objects name = some o → o.signature = none →
    r.plain (unsignedLine o) = .ok (unsignedLine o).toList
  parameterCells : ∀ name o s, findObject? x.objects name = some o → o.signature = some s →
    ∀ p ∈ shownParameters o, ∀ cell ∈ parameterRow p, r.plain cell = .ok cell.toList

/-- What was extracted appears on the screen as it is. -/
structure Faithful (tools : Tools) (c : Conventions) (tree : FileTree) (input : String)
    (config : Option String) (x : Extraction) : Prop extends Verbatim tools.screen x where
  /-- Listing the objects ends well, with a table that is drawn from
  their texts. If it fits on the screen, an object with texts of one line
  has a line of it, with its texts in the cells. -/
  listed : ∀ now verbose, ∃ title,
    Ended (Outcome.ofRun verbose tree (Run.command tools now (.extract input false config)))
      (drawnTable tools.screen title (objectsTable x.kbName x.objects))
    ∧ (Fits c (objectsTable x.kbName x.objects) →
      ∀ o ∈ x.objects, (∀ cell ∈ objectRow o, OneLine cell.toList) →
        HasLine (drawnTable tools.screen title (objectsTable x.kbName x.objects))
          (IsRow ((objectRow o).map String.toList)))
  /-- Showing an object ends well, with what is drawn from its texts. Where
  it fits on the screen, the line for the object is one of the lines there,
  and a parameter with texts of one line has one too. -/
  described : ∀ now verbose name o, findObject? x.objects name = some o →
    Ended (Outcome.ofRun verbose tree
        (Run.command tools now (.signature input name false config)))
      (drawnObject tools.screen o)
    ∧ (OneLine (objectLine o).toList → c.width (objectLine o).toList ≤ screenWidth →
      HasLine (drawnObject tools.screen o) (· = (objectLine o).toList))
    ∧ (o.signature.isSome → Fits c (parametersTable (shownParameters o)) →
      ∀ p ∈ shownParameters o, (∀ cell ∈ parameterRow p, OneLine cell.toList) →
        HasLine (drawnObject tools.screen o) (IsRow ((parameterRow p).map String.toList)))
  /-- The warnings are printed. -/
  warned : ∀ s, ((x.warnings.forM fun w =>
    Run.say tools.screen ("[yellow]Warning:[/yellow] " ++ w)).run s).1 = .ok ()

/-- The texts that are shown of what was extracted have nothing in them
for the markup to act on. -/
structure LiteralTexts (r : Renderer) (c : Conventions) (x : Extraction) : Prop where
  title : r.Reads x.kbName
  objects : ∀ o ∈ x.objects, Literal c.shown o.path.toList ∧ Literal c.shown o.kind.toList
    ∧ ∀ s, o.signature = some s → Literal c.shown s.callText.toList
  unsigned : ∀ name o, findObject? x.objects name = some o → o.signature = none →
    Literal c.shown (unsignedLine o).toList
  parameters : ∀ name o s, findObject? x.objects name = some o → o.signature = some s →
    ∀ p ∈ shownParameters o, Literal c.shown p.name.toList
      ∧ Literal c.shown p.direction.toList ∧ Literal c.shown p.type.toList
      ∧ Literal c.shown p.description.toList
  warnings : ∀ w ∈ x.warnings, r.Reads w

/-- The call texts of a package end in a semicolon. -/
theorem getLast?_callText {tree : FileTree} {path : FilePath} {config : Config}
    {others : Archive.Unpackers} {x : Extraction}
    (h : (extract tree path config others).result = .ok x) {o : KbObject}
    (ho : o ∈ x.objects) {s : Signature} (hs : o.signature = some s) :
    s.callText.toList.getLast? = some ';' := by
  obtain ⟨object, kind, rfl⟩ := Export.resolved_of_extract h o ho
  rw [Export.resolveObject] at hs
  split at hs
  case isFalse => cases hs
  case isTrue =>
    cases hs
    rcases Signature.resolve_cases object (object.attributeD "name") with
      ⟨htext, -⟩ | ⟨-, -, arguments, htext⟩
    · rw [htext, ParmRule.toList_canonicalCall, List.getLast?_append]
      rfl
    · rw [htext, String.toList_ofList, List.getLast?_append]
      rfl

theorem mem_of_findObject? {objects : List KbObject} {name : String} {o : KbObject}
    (h : findObject? objects name = some o) : o ∈ objects := by
  rw [findObject?, Option.or_eq_some_iff] at h
  rcases h with h | ⟨-, h⟩
  · exact List.mem_of_find?_eq_some h
  · exact List.mem_of_find?_eq_some h

/-- The title of the table of objects can be printed exactly if the name
of the knowledge base makes sense. -/
theorem title_ok_iff {r : Renderer} {c : Conventions} (h : r.Follows c) {kbName : String}
    {objects : List KbObject} :
    (∃ title, (objectsTable kbName objects).title.mapM r.plain = .ok title)
      ↔ r.Reads kbName := by
  rw [objectsTable, Renderer.Reads]
  split
  case isTrue hempty =>
    subst hempty
    exact iff_of_true ⟨none, rfl⟩
      ⟨_, h.plain_eq_iff.mpr (h.literal_of_ordinary (by decide))⟩
  case isFalse =>
    rw [Option.mapM_some]
    exact exists_return_iff some

section Drawn

variable {r : Renderer} {c : Conventions} (hr : r.Follows c)

include hr

/-- An object whose texts appear as they are is drawn from them. -/
theorem Verbatim.objectText_eq {x : Extraction} (h : Verbatim r x) {name : String}
    {o : KbObject} (ho : findObject? x.objects name = some o) :
    objectText r o = .ok (drawnObject r o) := by
  rw [objectText, drawnObject]
  cases hsignature : o.signature with
  | none => exact printed_line (h.unsigned name o ho hsignature)
  | some s =>
      have hparameters : parametersText r (shownParameters o)
          = .ok (if (shownParameters o).isEmpty then ""
            else drawnTable r none (parametersTable (shownParameters o))) := by
        rw [parametersText]
        split
        case isTrue => rfl
        case isFalse =>
          refine printed_table hr (regular_parametersTable _) rfl ?_
          exact List.forall_mem_map.mpr (h.parameterCells name o s ho hsignature)
      dsimp only
      rw [printed_line (h.signatures name o s ho hsignature), hparameters]
      rfl

/-- The line for an object is one of those that are drawn of it. -/
theorem hasLine_drawnObject {o : KbObject} (hone : OneLine (objectLine o).toList)
    (hfits : c.width (objectLine o).toList ≤ screenWidth) :
    HasLine (drawnObject r o) (· = (objectLine o).toList) := by
  have hline := hasLine_drawnLine hr hone hfits
  rw [drawnObject]
  rw [objectLine] at hline ⊢
  cases hs : o.signature with
  | none =>
      rw [hs] at hline
      exact hline
  | some s =>
      rw [hs] at hline
      dsimp only at hline ⊢
      split
      case isTrue =>
        rw [String.append_empty]
        exact hline
      case isFalse => exact hline.append_right _

/-- So are the rows of its parameters. -/
theorem hasRow_drawnObject {o : KbObject} (hs : o.signature.isSome)
    (hfits : Fits c (parametersTable (shownParameters o))) {p : Parameter}
    (hp : p ∈ shownParameters o) (hone : ∀ cell ∈ parameterRow p, OneLine cell.toList) :
    HasLine (drawnObject r o) (IsRow ((parameterRow p).map String.toList)) := by
  obtain ⟨s, hs⟩ := Option.isSome_iff_exists.mp hs
  have hrow : parameterRow p ∈ (parametersTable (shownParameters o)).rows :=
    List.mem_map_of_mem hp
  have hline := hasLine_drawnTable hr (regular_parametersTable _) hfits hrow hone none
  rw [drawnObject, hs]
  dsimp only
  rw [if_neg (by simpa using List.ne_nil_of_mem hp)]
  exact hline.append_left _

/-- Literal texts are left as they are. -/
theorem LiteralTexts.verbatim {tools : Tools} {tree : FileTree} {input : String}
    {config : Option String} {x : Extraction} (hliteral : LiteralTexts r c x)
    (h : Extracts tree input config x tools) : Verbatim r x where
  objectCells o ho cell hcell :=
    hr.plain_eq_iff.mpr ((literal_objectRow_iff hr).mpr (hliteral.objects o ho) cell hcell)
  signatures name o s ho hs := by
    obtain ⟨c, -, -, hresult⟩ := h
    have hmem := mem_of_findObject? ho
    refine (plain_signatureLine_iff hr ?_).mpr ((hliteral.objects o hmem).2.2 s hs)
    rw [getLast?_callText hresult hmem hs]
    decide
  unsigned name o ho hnone := hr.plain_eq_iff.mpr (hliteral.unsigned name o ho hnone)
  parameterCells name o s ho hs p hp cell hcell := hr.plain_eq_iff.mpr
    ((literal_parameterRow_iff hr).mpr (hliteral.parameters name o s ho hs p hp) cell hcell)

end Drawn

/-- What is extracted from a package that stands alone in a tree. -/
theorem extracts_package {bytes : List UInt8} {ms : List Archive.Member}
    (hms : Archive.members bytes = .ok ms) (hdelivers : Extraction.Delivers bytes ms) :
    ∃ x, Extracts (Extraction.packageTree bytes) "a.xpz" none x
      ∧ Extraction.Gathered {} {} (Extraction.documents bytes ms) x := by
  have hread := Extraction.read_packageTree bytes
  have hpath : FilePath.ofString "a.xpz" = ⟨"", ["a.xpz"]⟩ := by decide +kernel
  have hfile : FilePath.ofString ((none : Option String).getD Config.fileName)
      = ⟨"", [Config.fileName]⟩ := by
    decide +kernel
  have hsuffix : Text.lowercase (FilePath.suffix ⟨"", ["a.xpz"]⟩) = packageSuffix := by
    decide +kernel
  obtain ⟨x, hresult, hx⟩ := Extraction.gathered_extract hread hms hdelivers {}
  refine ⟨x, ⟨{}, ?_, ?_, ?_⟩, hx⟩
  · rw [hfile]
    rfl
  · rw [hpath, checkInput, FileTree.look_of_read hread]
    simp only [hsuffix, if_true]
  · rw [hpath, hresult]

/-- An export of one procedure with some parts. -/
def procedureExport (name parts : String) : String :=
  "<E><Objects><Object name='" ++ name ++ "' type='" ++ Export.procedureId ++ "'>" ++ parts
    ++ "</Object></Objects></E>"

/-- A package with brackets and backslashes in its texts, none of which
mean anything. -/
def bracketedArchive : List UInt8 :=
  Extraction.archiveOf [{ name := "[1].xml", text := "<E>" },
    { name := "a.xml"
      text := procedureExport "a[1]\\b" ("<Part type='" ++ Export.rulesPart
        ++ "'><Source>parm(in:&amp;A);</Source></Part>") }]

/-- The procedure in it. -/
def bracketedProcedure : KbObject :=
  { name := "a[1]\\b", kind := Export.procedureKind, path := "a[1]\\b"
    signature := some { parameters := [{ name := "A" }], callText := "a[1]\\b(in:&A);"
                        origin := .parmRule }
    documentation := some { parameters := [{ name := "A" }], autoGenerated := true } }

theorem exists_bracketed :
    ∃ x, Extracts (Extraction.packageTree bracketedArchive) "a.xpz" none x
      ∧ x.objects = [bracketedProcedure] ∧ x.kbName = ""
      ∧ x.warnings = ["Failed to parse [1].xml: no element found: line 1, column 3"] := by
  obtain ⟨ms, hms, hdelivers, hobjects, hname, hwarnings⟩ : ∃ ms,
      Archive.members bracketedArchive = .ok ms ∧ Extraction.Delivers bracketedArchive ms
      ∧ (Extraction.decoded {} (Extraction.documents bracketedArchive ms)).flatMap (·.objects)
        = [bracketedProcedure]
      ∧ Extraction.firstName
          (Extraction.decoded {} (Extraction.documents bracketedArchive ms)) = ""
      ∧ (Extraction.rejected {} (Extraction.documents bracketedArchive ms)).map (·.message)
        = ["Failed to parse [1].xml: no element found: line 1, column 3"] :=
    Extraction.exists_members (by decide +kernel)
  obtain ⟨x, hextracts, hx⟩ := extracts_package hms hdelivers
  refine ⟨x, hextracts, ?_, ?_, ?_⟩
  · rw [hx.objects, hobjects, List.nil_append]
  · rw [hx.kbName, hname, if_pos rfl]
  · rw [hx.warnings, hwarnings, List.nil_append]

/-- A package with a procedure that is named like a tag that closes. -/
def closingArchive : List UInt8 :=
  Extraction.archiveOf [{ name := "a.xml", text := procedureExport "[/x]" "" }]

/-- The procedure in it. -/
def closingProcedure : KbObject :=
  { name := "[/x]", kind := Export.procedureKind, path := "[/x]"
    signature := some { parameters := [], callText := "[/x]();" } }

end KbDocs.CommandLine
