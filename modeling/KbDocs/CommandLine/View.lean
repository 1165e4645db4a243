/-
How objects are shown: as values in JSON, and as tables.
-/
import KbDocs.Console.Renderer
import KbDocs.Json
import KbDocs.KbObject

namespace KbDocs

-- ================================================================ JSON

def Parameter.toJson (p : Parameter) : Json :=
  .object [("name", .string p.name), ("direction", .string p.direction),
    ("type", .string p.type), ("description", .string p.description)]

def Signature.toJson (s : Signature) : Json :=
  .object [("parameters", .list (s.parameters.map Parameter.toJson)),
    ("raw_signature", .string s.callText), ("extraction_mode", .string s.origin.label)]

def DocComment.toJson (d : DocComment) : Json :=
  .object [("package", .string d.package), ("summary", .string d.summary),
    ("description", .string d.description), ("author", .string d.author),
    ("created", .string d.created), ("return_value", .string d.returnValue),
    ("tags", .list (d.tags.map .string)), ("deprecated", .bool d.deprecated),
    ("deprecation_note", .string d.deprecationNote),
    ("parameters", .list (d.parameters.map Parameter.toJson)),
    ("is_auto_generated", .bool d.autoGenerated)]

/-- The fields of an object, with its source code or without. -/
def KbObject.jsonFields (o : KbObject) (withSource : Bool) : List (String × Json) :=
  [("name", .string o.name), ("kind", .string o.kind), ("path", .string o.path)]
    ++ (if withSource then [("source_code", .string o.sourceCode)] else [])
    ++ [("signature", (o.signature.map Signature.toJson).getD .null),
      ("xml_description", .string o.xmlDescription),
      ("documentation", (o.documentation.map DocComment.toJson).getD .null)]

namespace CommandLine

/-- All objects of a knowledge base. -/
def objectsJson (kbName : String) (objects : List KbObject) : Json :=
  .object [("kb_name", .string kbName),
    ("objects", .list (objects.map fun o => .object (o.jsonFields true)))]

-- ============================================================== tables

/-- What the table of objects says about documentation. -/
def documentedLabel (o : KbObject) : String :=
  if o.documented then "yes" else "no"

/-- The row of an object in the table of objects. -/
def objectRow (o : KbObject) : List String :=
  [o.path, o.kind, (o.signature.map (·.callText)).getD "-",
    (o.signature.map (·.origin.label)).getD "-", documentedLabel o]

/-- The table of all objects of a knowledge base. -/
def objectsTable (kbName : String) (objects : List KbObject) : Console.Table :=
  { title := if kbName = "" then none else some kbName
    headings := ["Name", "Kind", "Signature", "Mode", "Documented"]
    rows := objects.map objectRow }

/-- A text, or a dash in place of an empty one. -/
def orDash (s : String) : String :=
  if s = "" then "-" else s

/-- The row of a parameter. -/
def parameterRow (p : Parameter) : List String :=
  [p.name, p.direction, orDash p.type, orDash p.description]

/-- The table of some parameters. -/
def parametersTable (parameters : List Parameter) : Console.Table :=
  { headings := ["Name", "Direction", "Type", "Description"]
    rows := parameters.map parameterRow }

end CommandLine

end KbDocs
