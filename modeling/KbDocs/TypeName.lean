/-
Bare type names. A variable's type is recorded with the qualifiers of
the namespace it lives in and, for structured types, with the package
that defines it: `sdt:Messages, GeneXus.Common`. Documentation shows the
bare name, `Messages`. A reference to an attribute, `Attribute:UserId`,
names no type and is kept whole.
-/
import KbDocs.Text.Blank
import KbDocs.Text.Cut

namespace KbDocs.TypeName

open KbDocs.Text

/-- How a reference to an attribute begins. -/
def attributeMark : List Char :=
  "Attribute:".toList

/-- The type shown for a variable that is based on an attribute: the
export does not say which type the attribute has. -/
def attributeBased : String :=
  "-"

/-- Strips qualifiers from a trimmed type text: the text up to the first
colon goes, and so does the package that follows a comma, until no colon
is left or the text is a reference to an attribute. -/
def stripQualifiers (s : List Char) : List Char :=
  if attributeMark.isPrefixOf s then s
  else
    match _h : (cutAt ':' s).2 with
    | none => s
    | some rest => stripQualifiers (trim (cutAt ',' rest).1)
termination_by s.length
decreasing_by
  have hlt := length_lt_of_cutAt_snd _h
  have hcut := length_cutAt_fst_le ',' rest
  have htrim := length_trim_le (cutAt ',' rest).1
  omega

/-- The bare name of a type. -/
def bare (raw : String) : String :=
  String.ofList (stripQualifiers (trim raw.toList))

end KbDocs.TypeName
