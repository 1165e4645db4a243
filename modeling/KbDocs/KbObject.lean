/-
Knowledge base objects as they are documented: the end product of
reading an export and the input of every page that is written.
-/
import KbDocs.DocComment.Basic
import KbDocs.Signature.Basic

namespace KbDocs

/-- An object of a knowledge base with its signature and its
documentation. -/
structure KbObject where
  /-- The name to show: the description if there is one. -/
  name : String := ""
  kind : String := ""
  /-- The name in the knowledge base, which files are named after. -/
  path : String := ""
  sourceCode : String := ""
  /-- None for kinds that carry no source code. -/
  signature : Option Signature := none
  xmlDescription : String := ""
  documentation : Option DocComment := none
deriving DecidableEq, Inhabited

/-- Whether somebody wrote documentation for the object. -/
def KbObject.documented (o : KbObject) : Bool :=
  match o.documentation with
  | some doc => !doc.autoGenerated
  | none => false

end KbDocs
