/-
Parameters of a knowledge base procedure: what both the parameter
declarations and the documentation comments of an export describe.
-/
namespace KbDocs

/-- The directions a parameter can be declared with. -/
def directions : List String :=
  ["IN", "OUT", "INOUT"]

/-- One parameter of a procedure. The type and the description are empty
as long as nothing is known of them. -/
structure Parameter where
  name : String
  direction : String := "IN"
  type : String := ""
  description : String := ""
deriving DecidableEq, Inhabited

end KbDocs
