/-
The page of one procedure: title, package, signature, description,
parameters, return value, and who wrote it when. Sections about which
nothing is known are left out.
-/
import KbDocs.Page.Name

namespace KbDocs.Page

/-- The title of an object: its summary, or else its name. -/
def title (o : KbObject) : String :=
  match o.documentation with
  | some doc => orPlaceholder doc.summary o.name
  | none => o.name

/-- The package badge. A blank package has none. -/
def packageLines (doc : DocComment) : List String :=
  if Text.allBlank doc.package.toList then []
  else ["**Package:** " ++ link ("`" ++ doc.package ++ "`") (packageName doc.package) ++ "\n"]

/-- The signature section. -/
def signatureLines (o : KbObject) : List String :=
  match o.signature with
  | some s =>
      if s.callText = "" then []
      else ["## Signature\n", "```genexus\n" ++ s.callText ++ "\n```\n"]
  | none => []

/-- The notice on a deprecated object. -/
def deprecationLines (doc : DocComment) : List String :=
  if doc.deprecated then
    let note := if doc.deprecationNote = "" then "" else ": " ++ doc.deprecationNote
    ["⚠️ **DEPRECATED**" ++ note ++ "\n"]
  else []

/-- The description section: what the author wrote, or else what the
export says. -/
def descriptionLines (o : KbObject) : List String :=
  let text :=
    match o.documentation with
    | some doc => orPlaceholder doc.description o.xmlDescription
    | none => o.xmlDescription
  if text = "" then [] else ["## Description\n", text ++ "\n"]

/-- The row of one parameter. -/
def parameterRow (p : Parameter) : String :=
  "| " ++ orPlaceholder p.name "-" ++ " | " ++ orPlaceholder p.direction "IN"
    ++ " | " ++ orPlaceholder p.type "-" ++ " | " ++ orPlaceholder p.description "-" ++ " |"

/-- The parameters section. -/
def parameterLines (doc : DocComment) : List String :=
  if doc.parameters.isEmpty then []
  else
    ["## Parameters\n", "| Name | Direction | Type | Description |",
      "|------|-----------|------|-------------|"]
      ++ doc.parameters.map parameterRow ++ [""]

/-- The return value section. -/
def returnLines (doc : DocComment) : List String :=
  if doc.returnValue = "" then [] else ["## Return\n", doc.returnValue ++ "\n"]

/-- Who wrote the documentation, and when. -/
def creditLines (doc : DocComment) : List String :=
  if doc.autoGenerated then
    ["*⚠️ Auto-generated from XML metadata. "
      ++ "Add `/** */` annotations for detailed documentation.*\n"]
  else
    (if doc.author = "" then [] else ["**Author:** " ++ doc.author ++ "  "])
      ++ (if doc.created = "" then [] else ["**Created:** " ++ doc.created ++ "  "])

/-- Lines that need documentation. -/
def docLines (o : KbObject) (f : DocComment → List String) : List String :=
  match o.documentation with
  | some doc => f doc
  | none => []

/-- The page of a procedure. -/
def procedurePage (o : KbObject) : String :=
  ofLines (["# " ++ title o ++ "\n"] ++ docLines o packageLines ++ signatureLines o
    ++ docLines o deprecationLines ++ descriptionLines o ++ docLines o parameterLines
    ++ docLines o returnLines ++ ["---\n"] ++ docLines o creditLines ++ ["", footer])

/-- The row of a procedure on the page of its package. -/
def indexRow (o : KbObject) : String :=
  "| " ++ link o.path (ofObject o) ++ " | " ++ title o ++ " |"

/-- The page of a package. -/
def packagePage (package : String) (procedures : List KbObject) : String :=
  ofLines (["# Package: " ++ package ++ "\n", "## Procedures\n", "| Procedure | Summary |",
    "|-----------|---------|"] ++ procedures.map indexRow ++ ["\n---", footer])

end KbDocs.Page
