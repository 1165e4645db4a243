/-
Assembling documented objects from an export document. Each object of a
known kind is resolved on its own: its signature from the declarations,
its documentation from the comment in its source, and the two merged.
Of several objects with one name and one kind identifier the first
counts.
-/
import KbDocs.DocComment.Tag
import KbDocs.KbObject
import KbDocs.Log
import KbDocs.Signature.Resolve
import KbDocs.Xml.Document

namespace KbDocs.Export

open KbDocs.Xml

-- ========================================================= one object

/-- Whether objects of a kind carry documentation comments. -/
def carriesSource (kind : String) (sourceKinds : List String) : Bool :=
  sourceKinds.contains kind

/-- Documentation joined with the declared parameters. Documentation that
lists parameters itself is kept as written; parameters without any
documentation make up documentation of their own. -/
def mergeDocumentation (doc : Option DocComment) (object : Element)
    (parameters : List Parameter) : Option DocComment :=
  if parameters.isEmpty then doc
  else
    match doc with
    | none =>
        some { parameters := enrich parameters object, autoGenerated := true }
    | some d =>
        if d.parameters.isEmpty then
          some { d with parameters := enrich parameters object }
        else some d

/-- Resolves an exported object of a kind. -/
def resolveObject (object : Element) (kind : String) (sourceKinds : List String) :
    KbObject :=
  let name := object.attributeD "name"
  let description := object.attributeD "description"
  let plain : KbObject :=
    { name := orElseText description name
      kind := kind
      path := name
      xmlDescription := description }
  if carriesSource kind sourceKinds then
    let source := partSource object sourcePart
    let signature := Signature.resolve object name
    let doc := if source = "" then none else DocComment.ofSource? source
    { plain with
      sourceCode := source
      signature := some signature
      documentation := mergeDocumentation doc object signature.parameters }
  else plain

-- ======================================================== all objects

/-- An object of a known kind: its element, its kind, and the name and
kind identifier that it is told apart by. -/
structure Candidate where
  element : Element
  kind : String
  key : String × String

/-- The objects of a document that are of a known kind other than
folders. -/
def candidates (root : Element) (kinds : KindMap) : List Candidate :=
  ((root.childrenNamed "Objects").flatMap (·.childrenNamed "Object")).filterMap
    fun object =>
      let id := object.attributeD "type"
      match kinds.lookup id with
      | none => none
      | some kind =>
          if kind = folderKind then none
          else some ⟨object, kind, (object.attributeD "name", id)⟩

/-- Each candidate with whether its key occurred before, in the list or
among the keys `seen`. -/
def markRepeats (seen : List (String × String)) :
    List Candidate → List (Candidate × Bool)
  | [] => []
  | c :: rest => (c, seen.contains c.key) :: markRepeats (c.key :: seen) rest

/-- The first candidate of each key, in order. -/
def firsts (cs : List Candidate) : List Candidate :=
  (markRepeats [] cs).filterMap fun (c, repeated) => if repeated then none else some c

/-- The documented objects of an export document, in document order. -/
def assemble (root : Element) (kinds : KindMap) (sourceKinds : List String) :
    List KbObject :=
  (firsts (candidates root kinds)).map fun c => resolveObject c.element c.kind sourceKinds

/-- What is logged of one candidate. -/
def candidateLog (sourceKinds : List String) (c : Candidate) (repeated : Bool) : Log :=
  if repeated then [⟨.debug, "Skipping duplicate object " ++ c.key.1⟩]
  else
    match (resolveObject c.element c.kind sourceKinds).signature with
    | some s =>
        if s.origin = .nowhere then []
        else [⟨.debug, "Resolved signature of " ++ c.key.1 ++ " via " ++ s.origin.label⟩]
    | none => []

/-- What is logged while the objects of a document are assembled. -/
def assemblyLog (root : Element) (kinds : KindMap) (sourceKinds : List String) : Log :=
  (markRepeats [] (candidates root kinds)).flatMap fun (c, repeated) =>
    candidateLog sourceKinds c repeated

-- ========================================================= a document

/-- What an export document holds. -/
structure ExportContent where
  objects : List KbObject := []
  kbName : String := ""
  log : Log := []

/-- The name of the knowledge base that a document was exported from. -/
def kbName (root : Element) : String :=
  let versions := (root.childrenNamed "Source").flatMap (·.childrenNamed "Version")
  (versions.head?.map (·.attributeD "name")).getD ""

/-- A document that is not well formed or whose encoding is not known. -/
structure ExportError where
  source : String
  error : ParseError
deriving DecidableEq

def ExportError.message (e : ExportError) : String :=
  "Failed to parse " ++ e.source ++ ": " ++ e.error.message

/-- Reads an export document; `source` is its name in messages. -/
def parseExport (bytes : List UInt8) (source : String) (kinds : KindMap)
    (sourceKinds : List String) : Except ExportError ExportContent :=
  match Xml.parse bytes with
  | .error e => .error ⟨source, e⟩
  | .ok root =>
      .ok { objects := assemble root kinds sourceKinds
            kbName := kbName root
            log := assemblyLog root kinds sourceKinds }

end KbDocs.Export
