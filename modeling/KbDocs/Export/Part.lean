/-
Parts of an exported object. An object's element holds its parts at any
depth, each marked with the identifier of what it holds.
-/
import KbDocs.Export.Kind
import KbDocs.Xml.Element

namespace KbDocs.Export

open KbDocs.Xml

/-- The parts of an object with an identifier, in document order. -/
def parts (object : Element) (id : String) : List Element :=
  (object.descendantsNamed "Part").filter fun p => p.rawAttribute? "type" == some id

/-- The first part of an object with an identifier. -/
def part? (object : Element) (id : String) : Option Element :=
  (parts object id).head?

/-- The source text in the parts of an object with an identifier: that of
the first source element, wherever a part has one. -/
def partSource (object : Element) (id : String) : String :=
  let sources := (parts object id).flatMap (·.childrenNamed "Source")
  (sources.head?.map Element.trimmedText).getD ""

end KbDocs.Export
