/-
Writing the documentation of a knowledge base: one page a procedure, one
page a package, and the overview. A page that cannot be written is
reported and left out; only the directory and the overview are
indispensable.

All pages are planned before any is written. The plan depends on the
objects alone, and the writes happen in its order: procedures in the
order of the objects, then packages by name.
-/
import KbDocs.Files.Tree
import KbDocs.Log
import KbDocs.Page.Overview
import KbDocs.Page.Procedure

namespace KbDocs.Site

open KbDocs.Files KbDocs.Page

/-- A page to be written: its file in the directory, its text, what is
logged before it is written, and what a failure is reported as. -/
structure PlannedPage where
  file : String
  content : String
  notice : Log := []
  failure : String

/-- The procedures among some objects. -/
def procedures (objects : List KbObject) : List KbObject :=
  objects.filter isProcedure

/-- The paths of procedures without documentation. -/
def undocumented (objects : List KbObject) : List String :=
  ((procedures objects).filter (·.documentation.isNone)).map (·.path)

/-- The planned page of a procedure. -/
def planProcedure (o : KbObject) : PlannedPage :=
  { file := fileOf (ofObject o)
    content := procedurePage o
    notice :=
      if o.documentation.isNone then
        [⟨.warning, "Procedure '" ++ o.name ++ "' has no documentation comments"⟩]
      else []
    failure := "Failed to generate docs for " ++ o.name }

/-- The planned page of a package. -/
def planPackage (objects : List KbObject) (package : String) : PlannedPage :=
  { file := fileOf package
    content := packagePage package
      ((procedures objects).filter fun o => packageOf o == package)
    failure := "Failed to generate package index " ++ package }

/-- The packages of some objects, by name. -/
def packages (objects : List KbObject) : List String :=
  sortedKeys ((procedures objects).map packageOf)

/-- All pages but the overview. -/
def plan (objects : List KbObject) : List PlannedPage :=
  (procedures objects).map planProcedure ++ (packages objects).map (planPackage objects)

/-- The state of a run: the files, those written, and the log. -/
structure Progress where
  tree : FileTree
  files : List FilePath := []
  log : Log := []

/-- Writes one planned page. A failure of the file system is logged; a
name that no file can have ends the run. -/
def writePage (directory : FilePath) (s : Progress) (page : PlannedPage) :
    Progress × Option FileError :=
  let path := directory.child page.file
  let log := s.log ++ page.notice
  match s.tree.write path page.content.toUTF8.toList with
  | .ok tree => ({ tree := tree, files := s.files ++ [path], log := log }, none)
  | .error .nullByte => ({ s with log := log }, some .nullByte)
  | .error e =>
      ({ s with log := log ++ [⟨.warning, page.failure ++ ": " ++ e.message⟩] }, none)

/-- Writes planned pages in order. -/
def writePages (directory : FilePath) (s : Progress) :
    List PlannedPage → Progress × Option FileError
  | [] => (s, none)
  | page :: rest =>
      match writePage directory s page with
      | (s, none) => writePages directory s rest
      | (s, some e) => (s, some e)

/-- What a completed run reports. -/
structure Summary where
  directory : FilePath
  procedureCount : Nat
  undocumented : List String
  files : List FilePath

/-- The outcome of a run: the files as it leaves them, its log, and its
summary unless it failed. -/
structure Outcome where
  tree : FileTree
  log : Log
  result : Except FileError Summary

/-- Writes the documentation of some objects into a directory. -/
def generate (tree : FileTree) (objects : List KbObject) (kbName : String)
    (directory : FilePath) (generatedAt : Timestamp) : Outcome :=
  let opening : Log :=
    [⟨.info, "Generating Markdown documentation in: " ++ directory.toString⟩]
  match tree.ensureDirectory directory with
  | (tree, some e) => ⟨tree, opening, .error e⟩
  | (tree, none) =>
      match writePages directory { tree := tree, log := opening } (plan objects) with
      | (s, some e) => ⟨s.tree, s.log, .error e⟩
      | (s, none) =>
          let path := directory.child (fileOf (ofKb kbName))
          match s.tree.write path (overview objects kbName generatedAt).toUTF8.toList with
          | .error e => ⟨s.tree, s.log, .error e⟩
          | .ok tree =>
              ⟨tree, s.log, .ok
                { directory := directory
                  procedureCount := (procedures objects).length
                  undocumented := undocumented objects
                  files := s.files ++ [path] }⟩

end KbDocs.Site
