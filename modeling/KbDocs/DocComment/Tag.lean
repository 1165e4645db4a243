/-
Tags of a documentation block. A line that begins with `@` is a tag and
its value; what tag it is, is said by the text up to the first space.
Six tags set a text, the last one winning; `@tag` and `@param` add to a
list; `@deprecated` marks the object. Other lines say nothing.

A block whose cleaned text is empty counts as no documentation.
-/
import KbDocs.DocComment.Basic
import KbDocs.DocComment.Block
import KbDocs.Text.Case

namespace KbDocs

open KbDocs.Text

/-- The parameter that the value of a `@param` tag documents, written
`name [direction] type - description`. A second word that is no
direction is the type, and the direction is then `IN`. -/
def Parameter.ofTag? (value : String) : Option Parameter :=
  let (declared, description) := cutPhrase " - ".toList value.toList
  let description := String.ofList (trim (description.getD []))
  match words declared with
  | name :: second :: rest =>
      let direction := String.ofList (upper second)
      if direction ∈ directions then
        some { name := String.ofList name
               direction := direction
               type := String.ofList (rest.headD [])
               description := description }
      else
        some { name := String.ofList name
               type := String.ofList second
               description := description }
  | _ => none

namespace DocComment

/-- The documentation after one more line of the block. -/
def addLine (doc : DocComment) (line : List Char) : DocComment :=
  let (tag, rest) := cutAt ' ' line
  let value := String.ofList (trim (rest.getD []))
  match String.ofList tag with
  | "@package" => { doc with package := value }
  | "@summary" => { doc with summary := value }
  | "@description" => { doc with description := value }
  | "@author" => { doc with author := value }
  | "@created" => { doc with created := value }
  | "@return" => { doc with returnValue := value }
  | "@param" =>
      match Parameter.ofTag? value with
      | some p => { doc with parameters := doc.parameters ++ [p] }
      | none => doc
  | "@tag" => { doc with tags := doc.tags ++ [value] }
  | "@deprecated" => { doc with deprecated := true, deprecationNote := value }
  | _ => doc

/-- The documentation in the first block of a source. -/
def ofSource? (source : String) : Option DocComment :=
  if DocBlock.text source = "" then none
  else some ((DocBlock.cleanLines source.toList).foldl addLine {})

end DocComment

end KbDocs
