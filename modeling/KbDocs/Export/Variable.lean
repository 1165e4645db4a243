/-
Variables of an exported object. A variable is described by properties,
each a name and a value; when a property is given more than once, the
last value counts.
-/
import KbDocs.TypeName
import KbDocs.Xml.Element

namespace KbDocs.Export

open KbDocs.Xml

/-- What is known of a variable. -/
structure Variable where
  name : String := ""
  type : String := ""
  description : String := ""
  isParameter : Bool := false
deriving DecidableEq, Inhabited

/-- The properties of a variable that matter, as far as they have been
read. -/
structure VariableProperties where
  isParameter : Bool := false
  name : String := ""
  description : String := ""
  customType : String := ""
  attributeBased : Bool := false

/-- Whether a property value says yes. -/
def isTrueText (value : String) : Bool :=
  value == "True" || value == "true"

/-- Whether a property value refers to an attribute. -/
def refersToAttribute (value : String) : Bool :=
  TypeName.attributeMark.isPrefixOf value.toList

/-- The properties after one more of them. -/
def VariableProperties.set (v : VariableProperties) (name value : String) :
    VariableProperties :=
  match name with
  | "IsParm" => { v with isParameter := isTrueText value }
  | "Name" => { v with name := value }
  | "Description" => { v with description := value }
  | "ATTCUSTOMTYPE" => { v with customType := TypeName.bare value }
  | "idBasedOn" => { v with attributeBased := refersToAttribute value }
  | _ => v

/-- The variable that properties describe. A type of its own wins over
being based on an attribute. -/
def VariableProperties.toVariable (v : VariableProperties) : Variable :=
  { name := v.name
    type :=
      if v.customType ≠ "" then v.customType
      else if v.attributeBased then TypeName.attributeBased
      else ""
    description := v.description
    isParameter := v.isParameter }

/-- The names and values of a variable's properties, in document
order. -/
def propertyPairs (variable_ : Element) : List (String × String) :=
  ((variable_.childrenNamed "Properties").flatMap (·.childrenNamed "Property")).map
    fun p => (p.childText "Name", p.childText "Value")

/-- Reads a variable. -/
def Variable.ofElement (variable_ : Element) : Variable :=
  ((propertyPairs variable_).foldl (fun v (name, value) => v.set name value)
    ({} : VariableProperties)).toVariable

end KbDocs.Export
