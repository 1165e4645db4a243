/-
Call signatures: the parameters of a procedure, the canonical text of a
call to it, and which part of the export declared the parameters.
-/
import KbDocs.Parameter
import KbDocs.Text.Case
import KbDocs.Text.Cut

namespace KbDocs

/-- Where the parameters of a signature were declared: in the `parm`
rule, by the flags of the variables, or nowhere. -/
inductive Origin where
  | parmRule
  | variableFlags
  | nowhere
deriving DecidableEq, Inhabited

/-- The name an origin is reported under. -/
def Origin.label : Origin → String
  | parmRule => "ParmRule"
  | variableFlags => "IsParm"
  | nowhere => "None"

/-- The resolved signature of a procedure. -/
structure Signature where
  parameters : List Parameter
  callText : String
  origin : Origin := .nowhere
deriving DecidableEq, Inhabited

/-- A parameter as it stands in a call: the direction in lower case, a
colon and the name behind an ampersand. -/
def Parameter.argument (p : Parameter) : List Char :=
  Text.lower p.direction.toList ++ ":&".toList ++ p.name.toList

/-- The canonical text of a call, such as
`GetUser(in:&UserID, out:&UserName);`. -/
def canonicalCall (procedure : String) (parameters : List Parameter) : String :=
  String.ofList (procedure.toList ++ "(".toList
    ++ Text.join ", ".toList (parameters.map Parameter.argument)
    ++ ");".toList)

end KbDocs
