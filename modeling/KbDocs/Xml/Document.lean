/-
Reading a document into its root element. Tokens of the content drive a
stack of open elements; references to entities are replaced by reading
their text as content in turn. Names are expanded by the namespaces in
scope to `{namespace}name`.

Of several faults the one that comes first in the document is reported.
A fault within the text of an entity is placed at the reference to it.
-/
import KbDocs.Xml.Declaration
import KbDocs.Xml.Element
import KbDocs.Xml.Prolog

namespace KbDocs.Xml

-- ========================================================= namespaces

/-- The namespaces in scope by prefix, the innermost first. The empty
prefix is the default, and an empty name is no namespace. -/
abbrev Scope :=
  List (List Char × List Char)

/-- The namespace of the prefix `xml`. -/
def xmlNamespace : List Char :=
  "http://www.w3.org/XML/1998/namespace".toList

/-- The namespace of namespace declarations. -/
def xmlnsNamespace : List Char :=
  "http://www.w3.org/2000/xmlns/".toList

/-- A name as written, taken apart at its colon. -/
def splitName (name : List Char) : Option (List Char) × List Char :=
  match Text.cutAt ':' name with
  | (before, some after) => (some before, after)
  | (whole, none) => (none, whole)

/-- The prefix that an attribute declares a namespace for, if it declares
one. -/
def declaredPrefix? (name : List Char) : Option (List Char) :=
  if name = "xmlns".toList then some []
  else
    match splitName name with
    | (some before, after) => if before = "xmlns".toList then some after else none
    | (none, _) => none

/-- The scope with a namespace bound to a prefix. -/
def Scope.bind (scope : Scope) (pre uri : List Char) : Except Cause Scope :=
  if uri.isEmpty && !pre.isEmpty then .error .undeclaredPrefix
  else if pre = "xmlns".toList then .error .reservedXmlnsPrefix
  else if uri.contains '}' then .error .syntaxError
  else if pre = "xml".toList && uri ≠ xmlNamespace then .error .reservedXmlPrefix
  else if pre ≠ "xml".toList && uri = xmlNamespace then .error .reservedNamespace
  else if uri = xmlnsNamespace then .error .reservedNamespace
  else .ok ((pre, uri) :: scope)

/-- The namespace of a prefix; none when it is not bound. -/
def Scope.find? (scope : Scope) (pre : List Char) : Option (List Char) :=
  match scope.lookup pre with
  | some uri => if uri.isEmpty then none else some uri
  | none => none

/-- A name with its namespace written out. -/
def expandedName (uri name : List Char) : List Char :=
  '{' :: uri ++ '}' :: name

-- ========================================================= attributes

/-- The scope with the namespace that an attribute may declare. -/
def Scope.declare (scope : Scope) (name value : List Char) : Except Cause Scope :=
  match declaredPrefix? name with
  | some pre => scope.bind pre value
  | none => .ok scope

/-- The attributes of a start tag with their texts, and the scope with
the namespaces that they declare; a name that stands twice is a fault
where it stands again. -/
def attributeTexts (coding : Encoding) (dtd : Dtd) (start : List Symbol) (element : List Char)
    (scope : Scope) (seen : List (List Char)) :
    List RawAttribute → Except Fault (List (List Char × List Char) × Scope)
  | [] => .ok ([], scope)
  | a :: rest => do
      if seen.contains a.name then throw ⟨.duplicateAttribute, a.place⟩
      let tokenized := ((dtd.rule? element a.name).map (·.tokenized)).getD false
      let value ←
        match dtd.attributeText coding tokenized a.value a.after with
        | .ok value => pure value
        | .error (cause, place) => throw ⟨cause, place.getD start⟩
      let scope ← (scope.declare a.name value).mapError fun cause => ⟨cause, start⟩
      let (more, scope) ← attributeTexts coding dtd start element scope (a.name :: seen) rest
      return ((a.name, value) :: more, scope)

/-- The declared defaults of attributes that a start tag does not give. -/
def missingDefaults (dtd : Dtd) (element : List Char) (given : List (List Char)) :
    List (List Char × List Char) :=
  let rec go (given : List (List Char)) : List AttributeRule → List (List Char × List Char)
    | [] => []
    | r :: rest =>
        match r.default with
        | some value =>
            if r.element = element && !given.contains r.attr then
              (r.attr, value) :: go (r.attr :: given) rest
            else go given rest
        | none => go given rest
  go given dtd.rules

/-- Attributes with expanded names, namespace declarations left out. Two
attributes of one expanded name are a fault. -/
def expandAttributes (scope : Scope) (seen : List (List Char)) :
    List (List Char × List Char) → Except Cause (List (String × String))
  | [] => .ok []
  | (name, value) :: rest =>
      if (declaredPrefix? name).isSome then expandAttributes scope seen rest
      else
        match splitName name with
        | (none, _) => do
            return (String.ofList name, String.ofList value)
              :: (← expandAttributes scope seen rest)
        | (some pre, tail) => do
            match scope.find? pre with
            | none => throw .unboundPrefix
            | some uri =>
                let full := expandedName uri tail
                if seen.contains full then throw .duplicateAttribute
                return (String.ofList full, String.ofList value)
                  :: (← expandAttributes scope (full :: seen) rest)

/-- The expanded name of an element. -/
def expandTag (scope : Scope) (name : List Char) : Except Cause String :=
  match splitName name with
  | (some pre, tail) =>
      match scope.find? pre with
      | some uri => .ok (String.ofList (expandedName uri tail))
      | none => .error .unboundPrefix
  | (none, _) =>
      match scope.find? [] with
      | some uri => .ok (String.ofList (expandedName uri name))
      | none => .ok (String.ofList name)

-- =========================================================== the tree

/-- An element whose end tag has not been read: its name as written, what
was found in it so far with the last child first, and the namespaces in
scope inside it. -/
structure Frame where
  name : List Char
  tag : String
  attributes : List (String × String)
  text : String := ""
  children : List Element := []
  scope : Scope

/-- The frame with more character data. -/
def Frame.addText (f : Frame) (data : String) : Frame :=
  match f.children with
  | [] => { f with text := f.text ++ data }
  | c :: rest => { f with children := c.addTail data :: rest }

/-- The frame with one more child. -/
def Frame.addChild (f : Frame) (child : Element) : Frame :=
  { f with children := child :: f.children }

/-- The element of a frame. -/
def Frame.close (f : Frame) : Element :=
  .node f.tag f.attributes f.text f.children.reverse ""

/-- How much text a document of a size may amount to with its entities
replaced: eight mebibytes in any case, or a hundred times its size. -/
def expansionLimit (size : Nat) : Nat :=
  max 0x800000 (100 * size)

/-- The bytes that a text takes in UTF-8. -/
def textBytes (text : List Char) : Nat :=
  text.foldl (fun n c => n + c.utf8Size) 0

/-- The state of a tree under construction: the open elements, innermost
first, the root once it is closed, and how much more text entities may
stand for. -/
structure Tree where
  frames : List Frame := []
  root : Option Element := none
  allowance : Nat

/-- The scope outside all elements. -/
def outerScope : Scope :=
  [("xml".toList, xmlNamespace)]

def Tree.scope (t : Tree) : Scope :=
  match t.frames with
  | [] => outerScope
  | f :: _ => f.scope

def Tree.addText (t : Tree) (data : List Char) : Tree :=
  match t.frames with
  | [] => t
  | f :: rest => { t with frames := f.addText (String.ofList data) :: rest }

/-- The tree with its innermost element closed. -/
def Tree.closeFrame (t : Tree) : Tree :=
  match t.frames with
  | [] => t
  | [f] => { t with frames := [], root := some f.close }
  | f :: g :: rest => { t with frames := g.addChild f.close :: rest }

/-- The tree with a new element opened by a start tag at `start`. -/
def Tree.openFrame (coding : Encoding) (dtd : Dtd) (start : List Symbol) (t : Tree)
    (name : List Char) (attributes : List RawAttribute) : Except Fault Tree := do
  let (given, scope) ← attributeTexts coding dtd start name t.scope [] attributes
  let defaults := missingDefaults dtd name (given.map (·.1))
  let atStart {α : Type} (result : Except Cause α) : Except Fault α :=
    result.mapError fun cause => ⟨cause, start⟩
  let scope ← atStart (defaults.foldlM (fun scope (name, value) => scope.declare name value) scope)
  let expanded ← atStart (expandAttributes scope [] (given ++ defaults))
  let tag ← atStart (expandTag scope name)
  return { t with frames :=
    { name := name, tag := tag, attributes := expanded, scope := scope } :: t.frames }

/-- A reference as it stands in a document, cut to a hundred
characters. -/
def referenceText (name : List Char) : String :=
  String.ofList (('&' :: name ++ [';']).take 100)

/-- Reads content into a tree. In the document, content ends with the
root element, and what follows it is returned; the text of an entity is
content to its end and leaves as many elements open as it finds, `base`.
Entities being replaced are `opened`; the text of a further one is read
into the tree by `inside?`, unless no more can be opened. The content is
shorter than `fuel`. -/
def readContentWith (coding : Encoding) (dtd : Dtd) (opened : List (List Char)) (base : Option Nat)
    (inside? : Option (List Char → List Char → Tree → Except Fault Tree))
    (fuel : Nat) (t : Tree) (s : List Symbol) : Except Fault (Tree × List Symbol) :=
  match fuel, s with
  | 0, s => .ok (t, s)
  | _ + 1, [] =>
      match base with
      | none => .error ⟨.noElement, []⟩
      | some level =>
          if t.frames.length = level then .ok (t, [])
          else .error ⟨.asynchronousEntity, []⟩
  | fuel + 1, s => do
      let (token, rest) ← contentToken coding fuel s
      let continue_ (t : Tree) : Except Fault (Tree × List Symbol) :=
        if base.isNone && t.frames.isEmpty then .ok (t, rest)
        else readContentWith coding dtd opened base inside? fuel t rest
      match token with
      | .startTag name attributes empty =>
          let t ← t.openFrame coding dtd s name attributes
          continue_ (if empty then t.closeFrame else t)
      | .endTag name place =>
          if base = some t.frames.length then throw ⟨.asynchronousEntity, s⟩
          match t.frames with
          | [] => throw ⟨.mismatchedTag, place⟩
          | f :: _ =>
              if f.name = name then continue_ t.closeFrame
              else throw ⟨.mismatchedTag, place⟩
      | .text data => continue_ (t.addText data)
      | .character (some c) => continue_ (t.addText [c])
      | .character none => throw ⟨.badCharacterNumber, s⟩
      | .aside => continue_ t
      | .declaration => throw ⟨.misplacedDeclaration, s⟩
      | .finalReturn =>
          match base with
          | none => throw ⟨.noElement, s⟩
          | some _ => continue_ (t.addText ['\n'])
      | .entity name =>
          match predefinedEntity? name with
          | some c => continue_ (t.addText [c])
          | none =>
              match dtd.entity? name with
              | none =>
                  if dtd.closed then throw ⟨.undefinedEntity, s⟩
                  else throw ⟨.unresolvedReference (referenceText name), s⟩
              | some .unparsed => throw ⟨.binaryEntity, s⟩
              | some .external => throw ⟨.unresolvedReference (referenceText name), s⟩
              | some (.internal text) =>
                  if opened.contains name then throw ⟨.recursiveEntity, s⟩
                  let size := textBytes text
                  if t.allowance ≤ size then throw ⟨.amplificationLimit, s⟩
                  match inside? with
                  | none => throw ⟨.recursiveEntity, s⟩
                  | some inside =>
                      match inside name text { t with allowance := t.allowance - size } with
                      | .ok t => continue_ t
                      | .error fault => throw ⟨fault.cause, s⟩

/-- Reads content within which at most `depth` entities are opened one
inside another. -/
def readContent (coding : Encoding) (dtd : Dtd) (opened : List (List Char)) (base : Option Nat)
    (depth fuel : Nat) (t : Tree) (s : List Symbol) :
    Except Fault (Tree × List Symbol) :=
  match depth with
  | 0 => readContentWith coding dtd opened base none fuel t s
  | depth + 1 =>
      let inside (name text : List Char) (t : Tree) : Except Fault Tree := do
        let (t, _) ← readContent .utf8 dtd (name :: opened) (some t.frames.length) depth
          (text.length + 1) t (symbolsOf text)
        return t
      readContentWith coding dtd opened base (some inside) fuel t s

-- ======================================================= the document

/-- The encoding that a document declares, in place of the one that its
bytes show. -/
def declaredEncoding (detected : Encoding) (name : List Char) :
    Except (Sum Cause ParseError) Encoding :=
  let known : Option Encoding :=
    match String.ofList (name.map Char.toUpper) with
    | "UTF-8" => some .utf8
    | "ISO-8859-1" => some .latin1
    | "US-ASCII" => some .ascii
    | "UTF-16" => some (if detected.unitBytes = 2 then detected else .utf16 true)
    | "UTF-16BE" => some (.utf16 true)
    | "UTF-16LE" => some (.utf16 false)
    | _ => none
  match known with
  | some encoding =>
      if encoding.unitBytes ≠ detected.unitBytes
          || (encoding.unitBytes = 2 && encoding ≠ detected) then
        .error (.inl .incorrectEncoding)
      else .ok encoding
  | none =>
      match Text.CodePage.lookup name with
      | .page upper => .ok (.page upper)
      | .multiByte => .error (.inr .multiByteEncoding)
      | .foreign => .error (.inl .unknownEncoding)
      | .unknown => .error (.inr (.unknownEncoding (String.ofList name)))

/-- Reads the symbols of a document, encoded by `coding`, from its prolog
on. -/
def readFrom (coding : Encoding) (prolog : Prolog) (s : List Symbol) : Except Fault Element := do
  let fuel := s.length + 1
  let (dtd, content) ← prolog.read coding fuel s
  let tree : Tree := { allowance := expansionLimit s.length - s.length }
  let (t, rest) ← readContent coding dtd [] none (dtd.entities.length + 1) fuel tree content
  checkEpilog coding fuel rest
  match t.root with
  | some root => return root
  | none => throw ⟨.noElement, rest⟩

/-- Reads a document. -/
def parse (bytes : List UInt8) : Except ParseError Element :=
  match detectEncoding? bytes with
  | none => .error (.fault .unclosedToken 1 0)
  | some (detected, mark) =>
      let whole := detected.symbols bytes
      let s := detected.symbols (bytes.drop mark)
      match prologToken detected s with
      | .ok (.declaration, rest) =>
          let inside := (s.take (s.length - rest.length - 2)).drop 5
          let tail := s.drop (5 + inside.length)
          match Declaration.parse inside with
          | .error place =>
              .error (Fault.locate ⟨.malformedDeclaration, place ++ tail⟩ whole)
          | .ok declaration =>
              let prolog : Prolog :=
                { place := .misc, dtd := { standalone := declaration.standalone } }
              match declaration.encoding with
              | none => (readFrom detected prolog rest).mapError (·.locate whole)
              | some (name, place) =>
                  match declaredEncoding detected name with
                  | .error (.inl cause) => .error (Fault.locate ⟨cause, place ++ tail⟩ whole)
                  | .error (.inr error) => .error error
                  | .ok encoding =>
                      let used := mark + (s.length - rest.length) * detected.unitBytes
                      (readFrom encoding prolog (encoding.symbols (bytes.drop used))).mapError
                        (·.locate (encoding.symbols bytes))
      | _ => (readFrom detected {} s).mapError (·.locate whole)

end KbDocs.Xml
