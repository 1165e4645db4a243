/-
Identifiers of the export format. Kinds of objects and parts of objects
are named by fixed identifiers; kinds also have a name that people read,
and which kinds are known is a matter of configuration.
-/
namespace KbDocs.Export

/-- The identifier of procedures. -/
def procedureId : String :=
  "84a12160-f59b-4ad7-a683-ea4481ac23e9"

/-- The identifier of the part that holds an object's source code. -/
def sourcePart : String :=
  "528d1c06-a9c2-420d-bd35-21dca83f12ff"

/-- The identifier of the part that holds an object's rules. -/
def rulesPart : String :=
  "9b0a32a3-de6d-4be1-a4dd-1b85d3741534"

/-- The identifier of the part that declares an object's variables. -/
def variablesPart : String :=
  "e4c4ade7-53f0-4a56-bdfd-843735b66f47"

/-- The kind of procedures. -/
def procedureKind : String :=
  "Procedure"

/-- The kind of folders, which are never documented. -/
def folderKind : String :=
  "Folder"

/-- Kinds by identifier, in the order they were added. -/
abbrev KindMap :=
  List (String × String)

/-- The kinds that are known without configuration. -/
def builtinKinds : KindMap :=
  [(procedureId, procedureKind)]

/-- The kinds whose objects carry source code, unless configured. -/
def builtinSourceKinds : List String :=
  [procedureKind]

/-- The kinds with one more entry; an identifier that is known keeps its
place and gets the new kind. -/
def KindMap.insert (kinds : KindMap) (id kind : String) : KindMap :=
  if kinds.any (·.1 == id) then
    kinds.map fun (i, k) => if i == id then (i, kind) else (i, k)
  else kinds ++ [(id, kind)]

/-- The path to the parts of an object with an identifier. -/
def partPath (id : String) : String :=
  ".//Part[@type='" ++ id ++ "']"

end KbDocs.Export
