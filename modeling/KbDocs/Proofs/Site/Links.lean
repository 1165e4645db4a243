/-
The links between the pages of a site.

Pages refer to one another by file name: a procedure to its package, a
package to its procedures, the overview to the packages. The names in
links and the names of files are worked out in different places, and on
different conditions. They agree: `targets_reported` says that a run that
wrote every page reports a file for every link.

# Links in a text

What the export says may look like a link, so the links of a page cannot
be read off its text. `Line` keeps the two apart: a line is plain, or it
has one link that the page itself puts there. The pages in this form have
the texts that are written (`text_linkedPages`).
-/
import KbDocs.Proofs.Site.Kept
import KbDocs.Proofs.Site.Plan

namespace KbDocs

-- ============================================================== lines

namespace Page

/-- A line of a page. -/
inductive Line where
  /-- A line without a link of its own. -/
  | plain (text : String)
  /-- A line with a link to a page, and what stands around it. -/
  | linked (before label page after : String)

def Line.text : Line → String
  | plain text => text
  | linked before label page after => before ++ link label page ++ after

/-- Where the link of a line leads. -/
def Line.target? : Line → Option String
  | plain _ => none
  | linked _ _ page _ => some ("./" ++ fileOf page)

/-- A page of a site by its name and its lines. -/
structure LinkedPage where
  name : String
  lines : List Line

def LinkedPage.text (page : LinkedPage) : String :=
  ofLines (page.lines.map Line.text)

/-- Where the links of a page lead, in order. -/
def LinkedPage.targets (page : LinkedPage) : List String :=
  page.lines.filterMap Line.target?

def badgeLines (doc : DocComment) : List Line :=
  if Text.allBlank doc.package.toList then []
  else [.linked "**Package:** " ("`" ++ doc.package ++ "`") (packageName doc.package) "\n"]

def linkedProcedure (o : KbObject) : LinkedPage :=
  { name := ofObject o
    lines := [.plain ("# " ++ title o ++ "\n")]
      ++ o.documentation.toList.flatMap badgeLines
      ++ (signatureLines o ++ docLines o deprecationLines ++ descriptionLines o
        ++ docLines o parameterLines ++ docLines o returnLines ++ ["---\n"]
        ++ docLines o creditLines ++ ["", footer]).map .plain }

/-- The page of a package with some procedures. -/
def linkedIndex (package : String) (procedures : List KbObject) : LinkedPage :=
  { name := package
    lines := ["# Package: " ++ package ++ "\n", "## Procedures\n",
        "| Procedure | Summary |", "|-----------|---------|"].map .plain
      ++ procedures.map (fun o =>
        .linked "| " o.path (ofObject o) (" | " ++ title o ++ " |"))
      ++ ["\n---", footer].map .plain }

/-- The section of the overview on packages. -/
def packageRows (objects : List KbObject) : List Line :=
  if (countedPackages objects).isEmpty then []
  else
    ["## Packages\n", "| Package | Procedures |", "|---------|------------|"].map .plain
      ++ (tally (countedPackages objects)).map (fun (package, n) =>
        .linked "| " package package (" | " ++ toString n ++ " |"))
      ++ [.plain ""]

def linkedOverview (objects : List KbObject) (kbName : String)
    (generatedAt : Timestamp) : LinkedPage :=
  { name := ofKb kbName
    lines := ([if kbName = "" then "# GeneXus Documentation\n"
          else "# " ++ kbName ++ " Documentation\n",
        "Generated on: " ++ generatedAt.text ++ "\n",
        "Total Objects: **" ++ toString objects.length ++ "**\n"]
        ++ statisticsLines objects).map .plain
      ++ packageRows objects
      ++ (["## Extracted Objects\n"] ++ objectLines objects ++ ["\n---", footer]).map
        .plain }

-- -------------------------------------------------- texts of the lines

theorem map_text_plain (lines : List String) :
    (lines.map Line.plain).map Line.text = lines := by
  rw [List.map_map]
  exact List.map_id lines

theorem map_text_badgeLines (doc : DocComment) :
    (badgeLines doc).map Line.text = packageLines doc := by
  rw [badgeLines, packageLines]
  split <;> rfl

theorem text_linkedProcedure (o : KbObject) :
    (linkedProcedure o).text = procedurePage o := by
  have hbadge : (o.documentation.toList.flatMap badgeLines).map Line.text
      = docLines o packageLines := by
    rw [docLines]
    cases o.documentation with
    | none => rfl
    | some doc => simp [map_text_badgeLines]
  rw [LinkedPage.text, linkedProcedure, procedurePage]
  simp only [List.map_append, map_text_plain, hbadge, List.append_assoc]
  rfl

theorem text_linkedIndex (package : String) (ps : List KbObject) :
    (linkedIndex package ps).text = packagePage package ps := by
  have hrows : (ps.map fun o =>
      Line.linked "| " o.path (ofObject o) (" | " ++ title o ++ " |")).map Line.text
      = ps.map indexRow := by
    rw [List.map_map]
    refine List.map_congr_left fun o _ => ?_
    simp only [Function.comp_apply, Line.text, indexRow, String.append_assoc]
  rw [LinkedPage.text, linkedIndex, packagePage]
  simp only [List.map_append, map_text_plain, hrows]

theorem map_text_packageRows (objects : List KbObject) :
    (packageRows objects).map Line.text = packagesLines objects := by
  have hrows : ∀ counts : List (String × Nat),
      (counts.map fun (package, n) =>
        Line.linked "| " package package (" | " ++ toString n ++ " |")).map Line.text
      = counts.map fun (package, n) =>
          "| " ++ link package package ++ " | " ++ toString n ++ " |" := by
    intro counts
    rw [List.map_map]
    refine List.map_congr_left fun row _ => ?_
    simp only [Function.comp_apply, Line.text, String.append_assoc]
  rw [packageRows, packagesLines]
  dsimp only
  split
  case isTrue => rfl
  case isFalse =>
    rw [List.map_append, List.map_append, map_text_plain, hrows]
    rfl

theorem text_linkedOverview (objects : List KbObject) (kbName : String)
    (generatedAt : Timestamp) :
    (linkedOverview objects kbName generatedAt).text
      = overview objects kbName generatedAt := by
  rw [LinkedPage.text, linkedOverview, overview]
  simp only [List.map_append, map_text_plain, map_text_packageRows, List.append_assoc]

-- ------------------------------------------------- targets of the lines

theorem filterMap_target?_plain (lines : List String) :
    (lines.map Line.plain).filterMap Line.target? = [] := by
  rw [List.filterMap_map]
  exact List.filterMap_eq_nil_iff.mpr fun _ _ => rfl

theorem filterMap_target?_rows {α : Type} {row : α → Line} {page : α → String}
    (h : ∀ a, (row a).target? = some ("./" ++ fileOf (page a))) (rows : List α) :
    (rows.map row).filterMap Line.target? = rows.map fun a => "./" ++ fileOf (page a) := by
  rw [List.filterMap_map, ← List.filterMap_eq_map]
  exact List.filterMap_congr fun a _ => h a

/-- A procedure's page has a link if its package shows, and then to the
package that the procedure belongs to. -/
theorem targets_linkedProcedure (o : KbObject) :
    (linkedProcedure o).targets
      = (o.documentation.toList.filter fun doc => !Text.allBlank doc.package.toList).map
          fun _ => "./" ++ fileOf (packageOf o) := by
  rw [LinkedPage.targets, linkedProcedure]
  simp only [List.filterMap_append, filterMap_target?_plain, List.append_nil]
  cases hdoc : o.documentation with
  | none => rfl
  | some doc =>
      rw [Option.toList_some, List.flatMap_singleton, badgeLines]
      by_cases hblank : Text.allBlank doc.package.toList = true
      · simp [hblank, Line.target?]
      · -- a package that shows is not empty, which is what the file asks
        have hpackage : doc.package ≠ "" := by
          rintro hempty
          rw [hempty] at hblank
          exact hblank rfl
        simp [hblank, Line.target?, packageOf, hdoc, hpackage]

/-- A package's page has a link to each of its procedures. -/
theorem targets_linkedIndex (package : String) (ps : List KbObject) :
    (linkedIndex package ps).targets = ps.map fun o => "./" ++ fileOf (ofObject o) := by
  rw [LinkedPage.targets, linkedIndex]
  simp only [List.filterMap_append, filterMap_target?_plain, List.append_nil,
    List.nil_append]
  exact filterMap_target?_rows (fun _ => rfl) ps

/-- The overview has a link to each package that it counts. -/
theorem targets_linkedOverview (objects : List KbObject) (kbName : String)
    (generatedAt : Timestamp) :
    (linkedOverview objects kbName generatedAt).targets
      = (sortedKeys (countedPackages objects)).map fun package => "./" ++ fileOf package := by
  rw [LinkedPage.targets, linkedOverview]
  simp only [List.filterMap_append, filterMap_target?_plain, List.append_nil,
    List.nil_append]
  rw [packageRows]
  split
  case isTrue hnone =>
    rw [List.isEmpty_iff.mp hnone]
    simp [sortedKeys]
  case isFalse =>
    have hrows : ((tally (countedPackages objects)).map fun (package, n) =>
          Line.linked "| " package package (" | " ++ toString n ++ " |")).filterMap
            Line.target?
        = (tally (countedPackages objects)).map fun row => "./" ++ fileOf row.1 :=
      filterMap_target?_rows (fun _ => rfl) _
    simp only [List.filterMap_append, filterMap_target?_plain, List.nil_append, hrows]
    rw [List.filterMap_cons_none rfl, List.filterMap_nil, List.append_nil, tally,
      List.map_map]
    rfl

end Page

-- ============================================================ the site

namespace Site

open Files Files.FileTree Page

/-- The pages of a site with their links, in the order they are
written. -/
def linkedPages (objects : List KbObject) (kbName : String) (generatedAt : Timestamp) :
    List LinkedPage :=
  (procedures objects).map linkedProcedure
    ++ (packages objects).map (fun package =>
      linkedIndex package ((procedures objects).filter fun o => packageOf o == package))
    ++ [linkedOverview objects kbName generatedAt]

section Links

variable {objects : List KbObject} {kbName : String} {generatedAt : Timestamp}

/-- They have the names and the texts that are written. -/
theorem text_linkedPages :
    (linkedPages objects kbName generatedAt).map (fun page => (page.name, page.text))
      = pages objects kbName generatedAt := by
  have hprocedures : ((procedures objects).map linkedProcedure).map
      (fun page => (page.name, page.text))
      = (procedures objects).map fun o => (ofObject o, procedurePage o) := by
    rw [List.map_map]
    refine List.map_congr_left fun o _ => ?_
    rw [Function.comp_apply, text_linkedProcedure]
    rfl
  have hpackages : ((packages objects).map fun package => linkedIndex package
        ((procedures objects).filter fun o => packageOf o == package)).map
      (fun page => (page.name, page.text))
      = (packages objects).map fun package => (package, indexPage objects package) := by
    rw [List.map_map]
    refine List.map_congr_left fun package _ => ?_
    rw [Function.comp_apply, text_linkedIndex]
    rfl
  rw [linkedPages, pages, List.map_append, List.map_append, hprocedures, hpackages,
    List.map_singleton, text_linkedOverview]
  rfl

/-- A package that the overview counts is a package of the site. -/
theorem mem_packages_of_counted {package : String}
    (h : package ∈ countedPackages objects) : package ∈ packages objects := by
  obtain ⟨o, ho, rfl⟩ := List.mem_map.mp h
  obtain ⟨hmem, hboth⟩ := List.mem_filter.mp ho
  rw [Bool.and_eq_true] at hboth
  exact mem_packages.mpr ⟨o, List.mem_filter.mpr ⟨hmem, hboth.1⟩, rfl⟩

/-- Every link of a site leads to one of its pages. -/
theorem exists_page_of_target {page : LinkedPage} {target : String}
    (hpage : page ∈ linkedPages objects kbName generatedAt)
    (h : target ∈ page.targets) :
    ∃ name text, target = "./" ++ fileOf name
      ∧ (name, text) ∈ pages objects kbName generatedAt := by
  rcases List.mem_append.mp hpage with hpage | hpage
  · rcases List.mem_append.mp hpage with hpage | hpage
    · obtain ⟨o, ho, rfl⟩ := List.mem_map.mp hpage
      rw [targets_linkedProcedure] at h
      obtain ⟨-, -, rfl⟩ := List.mem_map.mp h
      exact ⟨_, _, rfl, index_mem_pages (mem_packages.mpr ⟨o, ho, rfl⟩)⟩
    · obtain ⟨package, -, rfl⟩ := List.mem_map.mp hpage
      rw [targets_linkedIndex] at h
      obtain ⟨o, ho, rfl⟩ := List.mem_map.mp h
      exact ⟨_, _, rfl, procedure_mem_pages (List.mem_filter.mp ho).1⟩
  · rw [List.mem_singleton.mp hpage, targets_linkedOverview] at h
    obtain ⟨package, hpackage, rfl⟩ := List.mem_map.mp h
    have hcounted := mem_packages_of_counted (mem_sortedKeys.mp hpackage)
    exact ⟨_, _, rfl, index_mem_pages hcounted⟩

end Links

/-- A run that wrote every page wrote those of `linkedPages`, and for
each link on them it reports the file that the link leads to, which is
there to be read. -/
theorem targets_reported {tree : FileTree} {objects : List KbObject} {kbName : String}
    {directory : FilePath} {generatedAt : Timestamp} {summary : Summary}
    (h : (generate tree objects kbName directory generatedAt).result = .ok summary)
    (hfiles : summary.files.length = (plan objects).length + 1) :
    (linkedPages objects kbName generatedAt).map (fun page => (page.name, page.text))
        = pages objects kbName generatedAt
      ∧ ∀ page ∈ linkedPages objects kbName generatedAt, ∀ target ∈ page.targets,
          ∃ file, target = "./" ++ file ∧ directory.child file ∈ summary.files
            ∧ ∃ content, (generate tree objects kbName directory generatedAt).tree.read
                (directory.child file) = .ok content := by
  refine ⟨text_linkedPages, fun page hpage target htarget => ?_⟩
  obtain ⟨name, text, rfl, hname⟩ := exists_page_of_target hpage htarget
  have hwritten : (fileOf name, text.toUTF8.toList)
      ∈ writes objects kbName generatedAt := by
    rw [writes_eq]
    exact List.mem_map.mpr ⟨(name, text), hname, rfl⟩
  refine ⟨fileOf name, rfl, ?_, ?_⟩
  · rw [files_of_generate h hfiles]
    exact List.mem_map_of_mem (f := fun w => directory.child w.1) hwritten
  · obtain ⟨t, hwrites⟩ := writeAll_of_generate h hfiles
    obtain ⟨content, -, hread⟩ :=
      exists_read_writeAll (fun w hw => writes_ne_up hw) hwrites hwritten
    exact ⟨content, hread⟩

/-- A procedure whose package has white space around its name, one of a
blank package, and one without documentation. -/
def scatteredObjects : List KbObject :=
  [{ name := "First", kind := Export.procedureKind, path := "a:b"
     documentation := some { package := " root " } },
    { name := "Second", kind := Export.procedureKind, path := "S"
      documentation := some { package := " " } },
    { name := "Third", kind := Export.procedureKind, path := "T" }]

/-- The links on the pages of these objects, and the files that a run
reports for them. -/
theorem targets_scattered :
    (linkedPages scatteredObjects "KB" ⟨2024, 1, 31, 12, 0, 0⟩).map (·.targets)
        = [["./root.md"], [], [], ["./a-b.md", "./S.md", "./T.md"], ["./root.md"]]
      ∧ ∃ summary, (generate {} scatteredObjects "KB" ⟨"", ["docs"]⟩
            ⟨2024, 1, 31, 12, 0, 0⟩).result = .ok summary
        ∧ ∀ page ∈ linkedPages scatteredObjects "KB" ⟨2024, 1, 31, 12, 0, 0⟩,
            ∀ target ∈ page.targets, ∃ file, target = "./" ++ file
              ∧ FilePath.child ⟨"", ["docs"]⟩ file ∈ summary.files := by
  refine ⟨by decide +kernel, ?_⟩
  obtain ⟨summary, hrun, hfiles⟩ : ∃ summary,
      (generate {} scatteredObjects "KB" ⟨"", ["docs"]⟩
        ⟨2024, 1, 31, 12, 0, 0⟩).result = .ok summary
      ∧ summary.files.length = (plan scatteredObjects).length + 1 :=
    Outcome.exists_summary (by decide +kernel)
  refine ⟨summary, hrun, fun page hpage target htarget => ?_⟩
  obtain ⟨file, htarget', hfile, -⟩ :=
    (targets_reported hrun hfiles).2 page hpage target htarget
  exact ⟨file, htarget', hfile⟩

end Site

end KbDocs
