/-
The settings of a run: where pages go, which kinds of objects there are
beyond those that are known anyway, and which kinds carry source code.
They are read from a document in a file. Without that file, or with one
that cannot be read, the settings are the usual ones; inside a readable
one, each setting that is missing or of a wrong shape is the usual one
by itself.
-/
import KbDocs.Export.Kind
import KbDocs.Files.Tree
import KbDocs.Yaml.Document

namespace KbDocs

open Export Files Yaml

/-- The settings of a run. -/
structure Config where
  outputDirectory : String := "./docs"
  kinds : KindMap := builtinKinds
  sourceKinds : List String := builtinSourceKinds
deriving DecidableEq

namespace Config

/-- The file that settings are read from unless another is named. -/
def fileName : String :=
  ".gxdocgen"

/-- The name under which a document holds the settings. -/
def sectionName : String :=
  "generator"

/-- A section of a document, by what stands in it under which key, and by
how its values read as texts. -/
structure Section where
  document : Document
  text? : Value → Option String
  entries : List (Value × Value)

namespace Section

/-- The section of a document that holds the settings, if there is
one. -/
def ofDocument? (loader : Loader) (d : Document) : Option Section := do
  let entries ← d.entries? d.root
  return ⟨d, loader.text? d, ← d.entries? (← Value.get? entries sectionName)⟩

/-- The value under a name. -/
def get? (s : Section) (name : String) : Option Value :=
  Value.get? s.entries name

/-- The entries of the mapping under a name, if a mapping is there. -/
def mapping? (s : Section) (name : String) : Option (List (Value × Value)) :=
  (s.get? name).bind s.document.entries?

/-- The items of the list under a name, if a list is there. -/
def list? (s : Section) (name : String) : Option (List Value) :=
  (s.get? name).bind s.document.items?

/-- Where pages go: whatever value is there, as text. -/
def outputDirectory? (s : Section) : Option String :=
  match s.get? "output_dir" with
  | some v => s.text? v
  | none => some ({} : Config).outputDirectory

/-- The known kinds and those of a mapping, which come after them or
replace them. -/
def kinds? (s : Section) : Option KindMap :=
  match s.mapping? "object_kinds" with
  | some entries => do
      let kinds ← entries.mapM fun (k, v) => do return (← s.text? k, ← s.text? v)
      return kinds.foldl (fun m (id, kind) => m.insert id kind) builtinKinds
  | none => some builtinKinds

/-- The kinds that carry source code: the items of a list, as texts. -/
def sourceKinds? (s : Section) : Option (List String) :=
  match s.list? "source_kinds" with
  | some items => items.mapM s.text?
  | none => some builtinSourceKinds

end Section

/-- The settings in a section, unless one of its values has no text. -/
def ofSection? (s : Section) : Option Config := do
  return ⟨← s.outputDirectory?, ← s.kinds?, ← s.sourceKinds?⟩

/-- The settings of a document: those of its section, or the usual
ones. -/
def ofDocument (loader : Loader) (d : Document) : Config :=
  ((Section.ofDocument? loader d).bind ofSection?).getD {}

/-- The settings in the bytes of a file. -/
def ofBytes (loader : Loader) (bytes : List UInt8) : Config :=
  match String.fromUTF8? ⟨bytes.toArray⟩ with
  | some text => ((loader.load? text).map (ofDocument loader)).getD {}
  | none => {}

/-- The settings in the file at a path. Only a path that cannot even be
looked up is an error. -/
def load (tree : FileTree) (path : FilePath) (loader : Loader := .basic) :
    Except FileError Config :=
  match tree.look path with
  | .error e => .error e
  | .ok (some (.file bytes)) => .ok (ofBytes loader bytes)
  | .ok _ => .ok {}

end Config

end KbDocs
