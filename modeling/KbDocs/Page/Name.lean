/-
Names of pages. Pages are files in one directory, named after texts from
the export; what cannot stand in a file name becomes a hyphen, so that
no name leads out of the directory.
-/
import KbDocs.KbObject
import KbDocs.Text.Blank
import KbDocs.Text.Cut

namespace KbDocs.Page

/-- The characters that a file name cannot have. -/
def unsafeChars : List Char :=
  "/\\:*?\"<>|".toList

/-- A text made safe for use as a file name; a blank text becomes the
given one. -/
def fileName (text fallback : String) : String :=
  let safe := (Text.trim text.toList).map fun c => if unsafeChars.contains c then '-' else c
  if safe.isEmpty then fallback else String.ofList safe

/-- The package of objects that belong to none. -/
def rootPackage : String :=
  "root"

/-- The file name of a package. -/
def packageName (package : String) : String :=
  fileName package rootPackage

/-- The page of an object without a name. -/
def unnamedPage : String :=
  "unnamed"

/-- The name of an object's page. -/
def ofObject (o : KbObject) : String :=
  fileName o.path unnamedPage

/-- The name of the package that an object belongs to. -/
def packageOf (o : KbObject) : String :=
  match o.documentation with
  | some doc => if doc.package = "" then rootPackage else packageName doc.package
  | none => rootPackage

/-- The overview page of a knowledge base without a name. -/
def overviewPage : String :=
  "README"

/-- The name of the overview page. -/
def ofKb (kbName : String) : String :=
  fileName kbName overviewPage

/-- The file of a page. -/
def fileOf (name : String) : String :=
  name ++ ".md"

/-- A link to a page. -/
def link (text name : String) : String :=
  "[" ++ text ++ "](./" ++ fileOf name ++ ")"

/-- The release of the generator that pages and the command line name. -/
def version : String :=
  "0.2.0"

/-- The line that every page ends with. -/
def footer : String :=
  "*Generated by GXDocGen v" ++ version ++ "*\n"

/-- A page from its lines. -/
def ofLines (lines : List String) : String :=
  Text.joinStrings "\n" lines

/-- A text, or a placeholder where it is empty. -/
def orPlaceholder (text placeholder : String) : String :=
  if text = "" then placeholder else text

end KbDocs.Page
