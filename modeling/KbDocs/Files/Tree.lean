/-
File trees: the files and directories that a run can see, as a value.
Reading and writing follow the rules of a file system without links:
every part of a path but the last must be a directory, and a name takes
at most 255 bytes.

The tree is a list of entries by location; the location of the tree
itself is the empty list, which is always a directory.
-/
import KbDocs.Files.Path
import KbDocs.Text.Quoted

namespace KbDocs.Files

/-- Why a file operation fails. -/
inductive FileCause where
  | missing
  | alreadyThere
  | notDirectory
  | isDirectory
  | nameTooLong
deriving DecidableEq

/-- The number and the wording that a cause is known by. -/
def FileCause.describe : FileCause → Nat × String
  | missing => (2, "No such file or directory")
  | alreadyThere => (17, "File exists")
  | notDirectory => (20, "Not a directory")
  | isDirectory => (21, "Is a directory")
  | nameTooLong => (36, "File name too long")

/-- A failed file operation. -/
inductive FileError where
  | failed (cause : FileCause) (path : FilePath)
  /-- The path holds a character that no path can hold. -/
  | nullByte
deriving DecidableEq

def FileError.message : FileError → String
  | failed cause path =>
      let (number, text) := cause.describe
      s!"[Errno {number}] " ++ text ++ ": " ++ Text.quoted path.toString
  | nullByte => "embedded null byte"

/-- What stands at a location. -/
inductive Entry where
  | file (content : List UInt8)
  | directory
deriving DecidableEq

/-- The parts that lead to a file or directory from the top of a tree. -/
abbrev Location :=
  List String

/-- A file tree. -/
structure FileTree where
  entries : List (Location × Entry) := []

namespace FileTree

/-- What stands at a location. -/
def get? (t : FileTree) (l : Location) : Option Entry :=
  if l.isEmpty then some .directory else t.entries.lookup l

/-- The tree with an entry put at a location, in place of what stood
there. -/
def put (t : FileTree) (l : Location) (e : Entry) : FileTree :=
  if t.entries.any (·.1 == l) then
    { entries := t.entries.map fun (k, v) => if k == l then (k, e) else (k, v) }
  else { entries := t.entries ++ [(l, e)] }

/-- The most bytes that a name can take. -/
def maxNameBytes : Nat :=
  255

/-- Follows parts down from a location. All but the last part must lead
to directories; the last may lead nowhere. -/
def walk (t : FileTree) (here : Location) : List String → Except FileCause Location
  | [] => .ok here
  | p :: rest =>
      match t.get? here with
      | none => .error .missing
      | some (.file _) => .error .notDirectory
      | some .directory =>
          if p = ".." then walk t here.dropLast rest
          else if maxNameBytes < p.utf8ByteSize then .error .nameTooLong
          else walk t (here ++ [p]) rest

/-- The location of a path. -/
def locate (t : FileTree) (path : FilePath) : Except FileCause Location :=
  walk t [] path.parts

/-- Whether a path has a character that no path can have. -/
def hasNull (path : FilePath) : Bool :=
  path.parts.any fun p => p.toList.contains '\x00'

/-- What a path leads to, if anything. A name that is too long is an
error even for a question. -/
def look (t : FileTree) (path : FilePath) : Except FileError (Option Entry) :=
  if hasNull path then .ok none
  else
    match t.locate path with
    | .ok l => .ok (t.get? l)
    | .error .nameTooLong => .error (.failed .nameTooLong path)
    | .error _ => .ok none

/-- Whether a path leads to a directory. -/
def isDirectory (t : FileTree) (path : FilePath) : Bool :=
  match t.look path with
  | .ok (some .directory) => true
  | _ => false

/-- The content of the file at a path. -/
def read (t : FileTree) (path : FilePath) : Except FileError (List UInt8) :=
  if hasNull path then .error .nullByte
  else
    match t.locate path with
    | .error cause => .error (.failed cause path)
    | .ok l =>
        match t.get? l with
        | some (.file content) => .ok content
        | some .directory => .error (.failed .isDirectory path)
        | none => .error (.failed .missing path)

/-- The tree with a file written, in place of any content it had. -/
def write (t : FileTree) (path : FilePath) (content : List UInt8) :
    Except FileError FileTree :=
  if hasNull path then .error .nullByte
  else
    match t.locate path with
    | .error cause => .error (.failed cause path)
    | .ok l =>
        match t.get? l with
        | some .directory => .error (.failed .isDirectory path)
        | _ => .ok (t.put l (.file content))

/-- The tree with a new directory, whose parent must be there. -/
def makeDirectory (t : FileTree) (path : FilePath) : Except FileError FileTree :=
  if hasNull path then .error .nullByte
  else
    match t.locate path with
    | .error cause => .error (.failed cause path)
    | .ok l =>
        match t.get? l with
        | some _ => .error (.failed .alreadyThere path)
        | none => .ok (t.put l .directory)

/-- Makes a directory at a path and the directories leading to it,
wherever they are missing. The path has no more than `depth` parts. On
failure the directories made so far stay. -/
def ensureDirectoryFrom (depth : Nat) (t : FileTree) (path : FilePath) :
    FileTree × Option FileError :=
  match t.makeDirectory path with
  | .ok t => (t, none)
  | .error .nullByte => (t, some .nullByte)
  | .error (.failed .missing p) =>
      match depth with
      | 0 => (t, some (.failed .missing p))
      | depth + 1 =>
          match ensureDirectoryFrom depth t path.parent with
          | (t, some e) => (t, some e)
          | (t, none) =>
              match t.makeDirectory path with
              | .ok t => (t, none)
              | .error e => (t, if t.isDirectory path then none else some e)
  | .error e => (t, if t.isDirectory path then none else some e)

/-- Makes a directory at a path and those leading to it, wherever they
are missing. -/
def ensureDirectory (t : FileTree) (path : FilePath) : FileTree × Option FileError :=
  ensureDirectoryFrom path.parts.length t path

/-- The tree with an entry at a location, and with directories above
it. -/
def place (t : FileTree) (l : Location) (e : Entry) : FileTree :=
  let above := (List.range l.length).map l.take
  let t := above.foldl
    (fun t d => if (t.get? d).isSome then t else t.put d .directory) t
  t.put l e

/-- The files of a tree that another does not have with the same
content. -/
def changedFiles (before after : FileTree) : List (Location × List UInt8) :=
  after.entries.filterMap fun (l, e) =>
    match e with
    | .directory => none
    | .file content =>
        if before.get? l = some (.file content) then none else some (l, content)

end FileTree

end KbDocs.Files
