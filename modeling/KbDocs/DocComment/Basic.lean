/-
Documentation of one knowledge base object, as its author wrote it in a
documentation comment or, lacking one, as far as the export itself tells.
-/
import KbDocs.Parameter

namespace KbDocs

/-- Structured documentation of an object. -/
structure DocComment where
  package : String := ""
  summary : String := ""
  description : String := ""
  author : String := ""
  created : String := ""
  returnValue : String := ""
  tags : List String := []
  deprecated : Bool := false
  deprecationNote : String := ""
  parameters : List Parameter := []
  /-- Whether no author wrote it: it was put together from the
  declarations alone. -/
  autoGenerated : Bool := false
deriving DecidableEq, Inhabited

end KbDocs
