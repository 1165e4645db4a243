/-
Resolving the signature of an exported object. The `parm` rule is asked
first; failing it, the variables flagged as parameters; failing both,
the signature is empty. Whatever is missing of a parameter's type and
description is then taken from the variable of its name.
-/
import KbDocs.Export.Part
import KbDocs.Export.Variable
import KbDocs.Signature.ParmRule

namespace KbDocs.Signature

open KbDocs.Export KbDocs.Xml

/-- The signature that the rules of an object declare. -/
def ofRules? (object : Element) (procedure : String) : Option Signature :=
  let rules := partSource object rulesPart
  if rules = "" then none else ParmRule.signature? rules procedure

/-- The elements of an object's variables, in document order. -/
def variableElements (object : Element) : List Element :=
  match part? object variablesPart with
  | none => []
  | some part => part.descendantsNamed "Variable"

/-- The parameter that a variable declares by its flag. No direction is
recorded for it, so it is `IN`. -/
def flaggedParameter? (v : Variable) : Option Parameter :=
  if v.isParameter && v.name ≠ "" then
    some { name := v.name, type := v.type, description := v.description }
  else none

/-- The signature that the flags of an object's variables declare. -/
def ofVariables? (object : Element) (procedure : String) : Option Signature :=
  match (variableElements object).filterMap (flaggedParameter? ∘ Variable.ofElement) with
  | [] => none
  | p :: ps => some { parameters := p :: ps, callText := canonicalCall procedure (p :: ps) }

/-- The signature of an object, with where it was found. -/
def resolve (object : Element) (procedure : String) : Signature :=
  match ofRules? object procedure with
  | some s => { s with origin := .parmRule }
  | none =>
      match ofVariables? object procedure with
      | some s => { s with origin := .variableFlags }
      | none => { parameters := [], callText := canonicalCall procedure [], origin := .nowhere }

end KbDocs.Signature

namespace KbDocs

open KbDocs.Export KbDocs.Xml

/-- The variable of a name among the variables of an object: the last one
whose name attribute it is. -/
def variableNamed? (object : Element) (name : String) : Option Variable :=
  let named := (Signature.variableElements object).filter fun v =>
    name ≠ "" && v.attribute? "Name" == some name
  named.getLast?.map Variable.ofElement

/-- A text, or another where it is empty. -/
def orElseText (text other : String) : String :=
  if text = "" then other else text

/-- The parameter with what a variable knows filled into its gaps. -/
def Parameter.fill (p : Parameter) (v : Variable) : Parameter :=
  { p with
    type := orElseText p.type v.type
    description := orElseText p.description v.description }

/-- Parameters with their gaps filled from the variables of an object. -/
def enrich (parameters : List Parameter) (object : Element) : List Parameter :=
  parameters.map fun p =>
    match variableNamed? object p.name with
    | some v => p.fill v
    | none => p

end KbDocs
