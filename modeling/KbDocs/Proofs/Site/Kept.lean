/-
Which pages of a site survive the run that writes them.

All pages are files in one directory, and their names come from three
places: the paths of procedures, the packages, and the name of the
knowledge base. Nothing keeps these apart. A later page replaces an
earlier one of the same file, so a page is lost wherever two names meet.

`pagesKept_iff_namesApart` says when that happens: a run that wrote every
page left all of them in place exactly if no procedure shares its file
name with a package, with the knowledge base, or with a procedure whose
page reads differently, and no package shares its file name with the
knowledge base. That the last three conditions ask for names only is due
to the pages: those of different kinds never have the same text.
-/
import KbDocs.Proofs.Page.Apart
import KbDocs.Proofs.Site.Run

namespace KbDocs.Site

open KbDocs.Files KbDocs.Files.FileTree KbDocs.Page

/-- The page of a package among all objects. -/
def indexPage (objects : List KbObject) (package : String) : String :=
  packagePage package ((procedures objects).filter fun o => packageOf o == package)

/-- A file tree holds every page of a site, each with its own text. -/
structure PagesKept (tree : FileTree) (directory : FilePath) (objects : List KbObject)
    (kbName : String) (generatedAt : Timestamp) : Prop where
  ofProcedures : ∀ o ∈ procedures objects,
    tree.read (directory.child (fileOf (ofObject o)))
      = .ok (procedurePage o).toUTF8.toList
  ofPackages : ∀ package ∈ packages objects,
    tree.read (directory.child (fileOf package))
      = .ok (indexPage objects package).toUTF8.toList
  ofOverview : tree.read (directory.child (fileOf (ofKb kbName)))
    = .ok (overview objects kbName generatedAt).toUTF8.toList

/-- No two pages of a site that differ have one file name. -/
structure NamesApart (objects : List KbObject) (kbName : String) : Prop where
  amongProcedures : ∀ o ∈ procedures objects, ∀ p ∈ procedures objects,
    ofObject o = ofObject p → procedurePage o = procedurePage p
  fromPackages : ∀ o ∈ procedures objects, ofObject o ∉ packages objects
  fromOverview : ∀ o ∈ procedures objects, ofObject o ≠ ofKb kbName
  packagesFromOverview : ofKb kbName ∉ packages objects

-- ========================================================== the pages

/-- The pages of a site with their names, in the order they are
written. -/
def pages (objects : List KbObject) (kbName : String) (generatedAt : Timestamp) :
    List (String × String) :=
  (procedures objects).map (fun o => (ofObject o, procedurePage o))
    ++ (packages objects).map (fun package => (package, indexPage objects package))
    ++ [(ofKb kbName, overview objects kbName generatedAt)]

section Pages

variable {objects : List KbObject} {kbName : String} {generatedAt : Timestamp}

theorem writes_eq :
    writes objects kbName generatedAt
      = (pages objects kbName generatedAt).map fun page =>
          (fileOf page.1, page.2.toUTF8.toList) := by
  simp only [writes, plan, pages, List.map_append, List.map_map, List.map_cons,
    List.map_nil]
  rfl

theorem writes_ne_up {w : String × List UInt8}
    (h : w ∈ writes objects kbName generatedAt) : w.1 ≠ ".." := by
  rw [writes_eq] at h
  obtain ⟨page, -, rfl⟩ := List.mem_map.mp h
  exact fileOf_ne_up page.1

theorem procedure_mem_pages {o : KbObject} (h : o ∈ procedures objects) :
    (ofObject o, procedurePage o) ∈ pages objects kbName generatedAt :=
  List.mem_append_left _ (List.mem_append_left _ (List.mem_map_of_mem h))

theorem index_mem_pages {package : String} (h : package ∈ packages objects) :
    (package, indexPage objects package) ∈ pages objects kbName generatedAt :=
  List.mem_append_left _ (List.mem_append_right _ (List.mem_map_of_mem h))

theorem overview_mem_pages :
    (ofKb kbName, overview objects kbName generatedAt)
      ∈ pages objects kbName generatedAt :=
  List.mem_append_right _ (List.mem_singleton.mpr rfl)

/-- There are no other pages. -/
theorem cases_of_mem_pages {name text : String}
    (h : (name, text) ∈ pages objects kbName generatedAt) :
    (∃ o ∈ procedures objects, ofObject o = name ∧ procedurePage o = text)
      ∨ (name ∈ packages objects ∧ indexPage objects name = text)
      ∨ (ofKb kbName = name ∧ overview objects kbName generatedAt = text) := by
  rcases List.mem_append.mp h with h | h
  · rcases List.mem_append.mp h with h | h
    · obtain ⟨o, ho, heq⟩ := List.mem_map.mp h
      exact .inl ⟨o, ho, Prod.mk.inj heq⟩
    · obtain ⟨package, hp, heq⟩ := List.mem_map.mp h
      obtain ⟨rfl, htext⟩ := Prod.mk.inj heq
      exact .inr (.inl ⟨hp, htext⟩)
  · exact .inr (.inr (Prod.mk.inj (List.mem_singleton.mp h).symm))

/-- A tree holds every page exactly if every page can be read back. -/
theorem pagesKept_iff {tree : FileTree} {directory : FilePath} :
    PagesKept tree directory objects kbName generatedAt
      ↔ ∀ name text, (name, text) ∈ pages objects kbName generatedAt →
          tree.read (directory.child (fileOf name)) = .ok text.toUTF8.toList := by
  constructor
  · intro h name text hpage
    rcases cases_of_mem_pages hpage with ⟨o, ho, rfl, rfl⟩ | ⟨hp, rfl⟩ | ⟨rfl, rfl⟩
    · exact h.ofProcedures o ho
    · exact h.ofPackages name hp
    · exact h.ofOverview
  · intro h
    refine ⟨fun o ho => ?_, fun package hp => ?_, ?_⟩
    · exact h _ _ (procedure_mem_pages ho)
    · exact h _ _ (index_mem_pages hp)
    · exact h _ _ overview_mem_pages

/-- Names are apart exactly if pages with one name have one text. -/
theorem namesApart_iff :
    NamesApart objects kbName
      ↔ ∀ name s t, (name, s) ∈ pages objects kbName generatedAt →
          (name, t) ∈ pages objects kbName generatedAt → s = t := by
  constructor
  · intro h name s t hs ht
    rcases cases_of_mem_pages hs with ⟨o, ho, rfl, rfl⟩ | ⟨hk, rfl⟩ | ⟨rfl, rfl⟩
    · rcases cases_of_mem_pages ht with ⟨p, hp, hname, rfl⟩ | ⟨hl, -⟩ | ⟨hname, -⟩
      · exact h.amongProcedures o ho p hp hname.symm
      · exact absurd hl (h.fromPackages o ho)
      · exact absurd hname.symm (h.fromOverview o ho)
    · rcases cases_of_mem_pages ht with ⟨p, hp, rfl, -⟩ | ⟨-, rfl⟩ | ⟨rfl, -⟩
      · exact absurd hk (h.fromPackages p hp)
      · rfl
      · exact absurd hk h.packagesFromOverview
    · rcases cases_of_mem_pages ht with ⟨p, hp, hname, -⟩ | ⟨hl, -⟩ | ⟨-, rfl⟩
      · exact absurd hname (h.fromOverview p hp)
      · exact absurd hl h.packagesFromOverview
      · rfl
  · intro h
    refine ⟨fun o ho p hp hname => ?_, fun o ho hp => ?_, fun o ho hname => ?_,
      fun hp => ?_⟩
    · have hmem : (ofObject p, procedurePage p) ∈ pages objects kbName generatedAt :=
        procedure_mem_pages hp
      rw [← hname] at hmem
      exact h _ _ _ (procedure_mem_pages ho) hmem
    · have htext := h _ _ _ (procedure_mem_pages ho) (index_mem_pages hp)
      exact procedurePage_ne_packagePage o _ _ htext
    · have hmem : (ofObject o, procedurePage o) ∈ pages objects kbName generatedAt :=
        procedure_mem_pages ho
      rw [hname] at hmem
      exact procedurePage_ne_overview o _ _ _ (h _ _ _ hmem overview_mem_pages)
    · have htext := h _ _ _ (index_mem_pages hp) overview_mem_pages
      exact packagePage_ne_overview _ _ _ _ htext

end Pages

-- ============================================================ the run

/-- A run that wrote every page left all of them in place exactly if
names are apart. -/
theorem pagesKept_iff_namesApart {tree : FileTree} {objects : List KbObject}
    {kbName : String} {directory : FilePath} {generatedAt : Timestamp}
    {summary : Summary}
    (h : (generate tree objects kbName directory generatedAt).result = .ok summary)
    (hfiles : summary.files.length = (plan objects).length + 1) :
    PagesKept (generate tree objects kbName directory generatedAt).tree directory
        objects kbName generatedAt
      ↔ NamesApart objects kbName := by
  obtain ⟨t, hwrites⟩ := writeAll_of_generate h hfiles
  have hnames : ∀ w ∈ writes objects kbName generatedAt, w.1 ≠ ".." := by
    intro w hw
    rw [writes_eq] at hw
    obtain ⟨page, -, rfl⟩ := List.mem_map.mp hw
    exact fileOf_ne_up page.1
  have hread := read_writeAll_iff hnames hwrites
  simp only [writes_eq, List.forall_mem_map, Prod.forall] at hread
  rw [pagesKept_iff, namesApart_iff, hread]
  constructor
  · intro hsame name s t hs ht
    exact eq_of_bytes (hsame name s hs name t ht rfl)
  · intro hsame name s hs name' t ht hfile
    obtain rfl := eq_of_fileOf hfile
    rw [hsame name s t hs ht]

/-- Two procedures of a package, and an object of another kind that is
named like the package. -/
def libraryObjects : List KbObject :=
  [{ name := "First", kind := Export.procedureKind, path := "a/b"
     documentation := some { package := "core" } },
    { name := "Second", kind := Export.procedureKind, path := "root"
      documentation := some { package := "core" } },
    { name := "Third", kind := "Transaction", path := "core" }]

/-- All pages of a run on these objects are kept. -/
theorem pagesKept_library :
    ∃ summary, (generate {} libraryObjects "KB" ⟨"", ["docs"]⟩
        ⟨2024, 1, 31, 12, 0, 0⟩).result = .ok summary
      ∧ summary.files.length = (plan libraryObjects).length + 1
      ∧ PagesKept (generate {} libraryObjects "KB" ⟨"", ["docs"]⟩
          ⟨2024, 1, 31, 12, 0, 0⟩).tree ⟨"", ["docs"]⟩ libraryObjects "KB"
          ⟨2024, 1, 31, 12, 0, 0⟩ := by
  obtain ⟨summary, hrun, hfiles⟩ : ∃ summary,
      (generate {} libraryObjects "KB" ⟨"", ["docs"]⟩
        ⟨2024, 1, 31, 12, 0, 0⟩).result = .ok summary
      ∧ summary.files.length = (plan libraryObjects).length + 1 :=
    Outcome.exists_summary (by decide +kernel)
  refine ⟨summary, hrun, hfiles, (pagesKept_iff_namesApart hrun hfiles).mpr ?_⟩
  exact ⟨by decide +kernel, by decide +kernel, by decide +kernel, by decide +kernel⟩

/-- A procedure that is named like the package of procedures without
one. -/
def rootProcedure : KbObject :=
  { name := "root", kind := Export.procedureKind, path := "root" }

/-- The page of that procedure is lost to the index of the package,
although both were written. -/
theorem not_pagesKept_root :
    ((procedures [rootProcedure]).map (·.path)).Nodup
      ∧ ∃ summary, (generate {} [rootProcedure] "KB" ⟨"", ["docs"]⟩
          ⟨2024, 1, 31, 12, 0, 0⟩).result = .ok summary
        ∧ summary.files.length = (plan [rootProcedure]).length + 1
        ∧ ¬ PagesKept (generate {} [rootProcedure] "KB" ⟨"", ["docs"]⟩
            ⟨2024, 1, 31, 12, 0, 0⟩).tree ⟨"", ["docs"]⟩ [rootProcedure] "KB"
            ⟨2024, 1, 31, 12, 0, 0⟩ := by
  refine ⟨by decide +kernel, ?_⟩
  obtain ⟨summary, hrun, hfiles⟩ : ∃ summary,
      (generate {} [rootProcedure] "KB" ⟨"", ["docs"]⟩
        ⟨2024, 1, 31, 12, 0, 0⟩).result = .ok summary
      ∧ summary.files.length = (plan [rootProcedure]).length + 1 :=
    Outcome.exists_summary (by decide +kernel)
  refine ⟨summary, hrun, hfiles, fun hkept => ?_⟩
  -- the procedure and its package have one file between them
  have hfile : ofObject rootProcedure = "root" := by decide +kernel
  have hprocedure := hkept.ofProcedures rootProcedure (by decide)
  have hpackage := hkept.ofPackages "root" (by decide +kernel)
  rw [hfile, hpackage] at hprocedure
  have htext := eq_of_bytes (Except.ok.inj hprocedure)
  exact procedurePage_ne_packagePage rootProcedure "root" _ htext.symm

end KbDocs.Site
