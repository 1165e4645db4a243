/-
Extracting the objects of an export package: an archive whose members
with the right ending are export documents. Documents are read in the
order of the archive. One that is not well formed costs a warning and
nothing else; a member that the archive cannot deliver ends the
extraction.
-/
import KbDocs.Archive.Member
import KbDocs.Config
import KbDocs.Export.Assembly
import KbDocs.Text.Case

namespace KbDocs

open Archive Export Files

-- =============================================================== input

/-- The ending of export packages. -/
def packageSuffix : String :=
  ".xpz"

/-- Why a path is no export package. -/
inductive InputError where
  | missing (path : FilePath)
  | directory (path : FilePath)
  | suffix (found : String)
  /-- The path cannot even be looked up. -/
  | file (error : FileError)
deriving DecidableEq

def InputError.message : InputError → String
  | missing path => "file does not exist: " ++ path.toString
  | directory path => "expected a file, got a directory: " ++ path.toString
  | suffix found =>
      "expected " ++ packageSuffix ++ " file, got: "
        ++ (if found = "" then "(no extension)" else found)
  | file error => error.message

/-- Checks that a path leads to a file with the ending of export
packages, in whatever case it is written. -/
def checkInput (tree : FileTree) (path : FilePath) : Except InputError Unit :=
  match tree.look path with
  | .error e => .error (.file e)
  | .ok none => .error (.missing path)
  | .ok (some .directory) => .error (.directory path)
  | .ok (some (.file _)) =>
      if Text.lowercase path.suffix = packageSuffix then .ok ()
      else .error (.suffix path.suffix)

-- ========================================================== extraction

/-- What was extracted from an export package. -/
structure Extraction where
  objects : List KbObject := []
  kbName : String := ""
  warnings : List String := []
  log : Log := []

/-- Why an export package cannot be read. -/
inductive ExtractError where
  | missing (path : FilePath)
  | file (error : FileError)
  | archive (fault : ArchiveFault)
deriving DecidableEq

def ExtractError.message : ExtractError → String
  | missing path => "XPZ file not found: " ++ path.toString
  | file error => error.message
  | archive fault =>
      if fault.isDamage then "failed to open XPZ archive: " ++ fault.message
      else fault.message

namespace Extraction

/-- The ending of export documents. -/
def documentSuffix : List Char :=
  ".xml".toList

/-- Whether a member of an archive is an export document: not a
directory, and with the right ending in whatever case. -/
def isDocument (m : Member) : Bool :=
  !m.isDirectory && documentSuffix.isSuffixOf (Text.lower m.name.toList)

/-- The extraction with what a document holds, or with a warning. The
first document that names the knowledge base gives it its name. -/
def addContent (x : Extraction) (name : String) :
    Except ExportError ExportContent → Extraction
  | .error e =>
      { x with
        warnings := x.warnings ++ [e.message]
        log := x.log ++ [⟨.warning, e.message⟩] }
  | .ok c =>
      let found : Log :=
        if c.objects.isEmpty then []
        else
          [⟨.info, "Found " ++ c.objects.length.repr ++ " objects in " ++ name⟩]
      { x with
        objects := x.objects ++ c.objects
        kbName := if x.kbName = "" then c.kbName else x.kbName
        log := x.log ++ c.log ++ found }

/-- The extraction with the documents among some members of an archive,
up to the first that cannot be delivered. -/
def addMembers (others : Unpackers) (bytes : List UInt8) (config : Config)
    (x : Extraction) : List Member → Extraction × Option ArchiveFault
  | [] => (x, none)
  | m :: rest =>
      if isDocument m then
        match m.read bytes others with
        | .error fault => (x, some fault)
        | .ok document =>
            let content := parseExport document m.name config.kinds config.sourceKinds
            addMembers others bytes config (x.addContent m.name content) rest
      else addMembers others bytes config x rest

end Extraction

/-- The outcome of an extraction: its log, and what was extracted unless
it failed. -/
structure ExtractOutcome where
  log : Log := []
  result : Except ExtractError Extraction

/-- Extracts the objects of the export package at a path. -/
def extract (tree : FileTree) (path : FilePath) (config : Config)
    (others : Unpackers := .none) : ExtractOutcome :=
  match tree.look path with
  | .error e => { result := .error (.file e) }
  | .ok none => { result := .error (.missing path) }
  | .ok (some _) =>
      let opening : Log := [⟨.info, "Opening XPZ file: " ++ path.toString⟩]
      match tree.read path with
      | .error e => ⟨opening, .error (.file e)⟩
      | .ok bytes =>
          match members bytes with
          | .error fault => ⟨opening, .error (.archive fault)⟩
          | .ok ms =>
              match Extraction.addMembers others bytes config { log := opening } ms with
              | (x, some fault) => ⟨x.log, .error (.archive fault)⟩
              | (x, none) =>
                  let closing : LogEntry :=
                    ⟨.info, "Extracted " ++ x.objects.length.repr ++ " GeneXus objects"⟩
                  let x := { x with log := x.log ++ [closing] }
                  ⟨x.log, .ok x⟩

-- ============================================================== lookup

/-- The object with a path, or else the first whose name agrees without
regard to case. -/
def findObject? (objects : List KbObject) (name : String) : Option KbObject :=
  (objects.find? fun o => o.path == name).or
    (objects.find? fun o => Text.lowercase o.name == Text.lowercase name)

end KbDocs
