/-
The nodes of a document. Tokens are read by descent, one function for
each place where a node may stand; every call uses up a token or goes
one step further into a chain of at most three calls, so a bound of a
few times the number of tokens is never reached.

Collections are numbered, and a node that is one is its number. An alias
is the node of its anchor, so that a collection may stand in several
places, also inside of itself.
-/
import KbDocs.Yaml.Resolve
import KbDocs.Yaml.Token

namespace KbDocs.Yaml

/-- A node of a document. -/
inductive Node where
  | scalar (tag : Tag) (text : String)
  /-- A collection, by its number. -/
  | collection (number : Nat)

/-- What a collection of nodes holds. -/
inductive Contents where
  | sequence (tag : Tag) (items : List Node)
  | mapping (tag : Tag) (entries : List (Node × Node))

/-- The collections of a document by number. -/
abbrev Collections :=
  List (Nat × Contents)

/-- How far the tokens of a document have been read. -/
structure Reader where
  tokens : List Token
  /-- What anchors stand for, the latest first. -/
  anchors : List (String × Node) := []
  /-- The collections that have been read to their end. -/
  collections : Collections := []
  /-- How many collections have been begun. -/
  count : Nat := 0
  /-- What tag handles stand for. -/
  handles : List (String × String) := [("!", "!"), ("!!", tagDomain)]

/-- A step of reading tokens. -/
abbrev Read :=
  StateT Reader Option

namespace Read

/-- The next token, if there is one. -/
def peek : Read (Option Token) := do
  return (← get).tokens.head?

/-- Goes on by one token. -/
def skip : Read Unit :=
  modify fun r => { r with tokens := r.tokens.tail }

/-- Goes on behind a token that must stand here. -/
def expect (t : Token) : Read Unit := do
  if (← peek) == some t then skip else failure

/-- Whether one of some tokens stands here. -/
def standsAt (ts : List Token) : Read Bool := do
  return (← peek).any ts.contains

/-- Goes on behind a token if it stands here, and tells whether it
did. -/
def optional (t : Token) : Read Bool := do
  if (← peek) == some t then
    skip
    return true
  else return false

/-- The node that is written as nothing. -/
def absent : Node :=
  .scalar .null ""

/-- Goes on behind an anchor, if one stands here, and gives its name. -/
def anchor? : Read (Option String) := do
  match ← peek with
  | some (.anchor name) =>
      skip
      return some name
  | _ => return none

/-- Goes on behind a tag, if one stands here, and gives it in full. A
handle must be known. -/
def tag? : Read (Option String) := do
  match ← peek with
  | some (.tag none suffix) =>
      skip
      return some suffix
  | some (.tag (some handle) suffix) =>
      skip
      let meaning ← ((← get).handles.lookup handle : Option String)
      return some (meaning ++ suffix)
  | _ => return none

/-- The properties in front of a node, in either order. -/
def properties : Read (Option String × Option String) := do
  let early ← anchor?
  let tag ← tag?
  let late ← if early.isNone && tag.isSome then anchor? else pure none
  return (early.or late, tag)

/-- The meaning of a node by its tag, or by a rule where it has none or
leaves it open. -/
def meaning (tag : Option String) (untagged : Tag) : Tag :=
  match tag with
  | none => untagged
  | some "!" => untagged
  | some name => Tag.ofName name

/-- Lets an anchor stand for a node. -/
def bind (anchor : Option String) (n : Node) : Read Unit := do
  match anchor with
  | some name => modify fun r => { r with anchors := (name, n) :: r.anchors }
  | none => pure ()

/-- A collection under the next number. Its anchor stands for it from its
beginning on, so inside of it too. -/
def collection (anchor : Option String) (contents : Read Contents) : Read Node := do
  let number := (← get).count
  modify fun r => { r with count := number + 1 }
  bind anchor (.collection number)
  let c ← contents
  modify fun r => { r with collections := (number, c) :: r.collections }
  return .collection number

/-- A scalar, or a plain text whose meaning is in its form. A mark
without a name asks for the form in any case. -/
def scalarNode (tag : Option String) (text : String) (isPlain : Bool) : Node :=
  let untagged :=
    if isPlain || tag == some "!" then Tag.ofPlain text else .text
  .scalar (meaning tag untagged) text

-- =============================================================== nodes

/-- Where a node stands: what may start there besides scalars, brackets
and aliases. -/
inductive Place where
  /-- Inside brackets, no block. -/
  | flow
  /-- In a block, any block. -/
  | block
  /-- In a block mapping, also items that are not indented. -/
  | entry
deriving DecidableEq

mutual

/-- A node. Properties alone stand for a node written as nothing. -/
def node (place : Place) : Nat → Read Node
  | 0 => failure
  | bound + 1 => do
      if let some (.alias name) ← peek then
        skip
        let n ← ((← get).anchors.lookup name : Option Node)
        return n
      let (anchor, tag) ← properties
      if let some name := anchor then
        if ((← get).anchors.lookup name).isSome then failure
      match ← peek with
      | some (.scalar text isPlain) =>
          skip
          let n := scalarNode tag text isPlain
          bind anchor n
          return n
      | some .sequenceOpen =>
          skip
          collection anchor do
            return .sequence (meaning tag .list) (← flowItems bound true)
      | some .mappingOpen =>
          skip
          collection anchor do
            return .mapping (meaning tag .map) (← flowEntries bound true)
      | some .blockSequence =>
          if place == .flow then failure
          skip
          collection anchor do
            return .sequence (meaning tag .list) (← blockItems bound)
      | some .blockMapping =>
          if place == .flow then failure
          skip
          collection anchor do
            return .mapping (meaning tag .map) (← blockEntries bound)
      | following =>
          if place == .entry && following == some .item then
            collection anchor do
              return .sequence (meaning tag .list) (← bareItems bound)
          else if anchor.isSome || tag.isSome then
            let n := scalarNode tag "" (tag.isNone || tag == some "!")
            bind anchor n
            return n
          else failure

/-- A node, unless a token stands here before which there is none. -/
def nodeUnless (place : Place) (ends : List Token) : Nat → Read Node
  | 0 => failure
  | bound + 1 => do
      if ← standsAt ends then return absent else node place bound

/-- The items of a block up to its end. -/
def blockItems : Nat → Read (List Node)
  | 0 => failure
  | bound + 1 => do
      if ← optional .item then
        let n ← nodeUnless .block [.item, .blockEnd] bound
        return n :: (← blockItems bound)
      else
        expect .blockEnd
        return []

/-- Items that are not indented, which end where the next entry of the
mapping around them starts. -/
def bareItems : Nat → Read (List Node)
  | 0 => failure
  | bound + 1 => do
      if ← optional .item then
        let n ← nodeUnless .block [.item, .key, .value, .blockEnd] bound
        return n :: (← bareItems bound)
      else return []

/-- The entries of a block up to its end. -/
def blockEntries : Nat → Read (List (Node × Node))
  | 0 => failure
  | bound + 1 => do
      if ← optional .key then
        let k ← nodeUnless .entry [.key, .value, .blockEnd] bound
        let v ← if ← optional .value then
            nodeUnless .entry [.key, .value, .blockEnd] bound
          else pure absent
        return (k, v) :: (← blockEntries bound)
      else
        expect .blockEnd
        return []

/-- The value of an entry inside brackets. -/
def flowValue (close : Token) : Nat → Read Node
  | 0 => failure
  | bound + 1 => do
      if ← optional .value then nodeUnless .flow [.comma, close] bound
      else return absent

/-- The items up to a closing bracket. A key among them is a mapping of
one entry. -/
def flowItems : Nat → Bool → Read (List Node)
  | 0, _ => failure
  | bound + 1, isFirst => do
      if ← optional .sequenceClose then return []
      if !isFirst then expect .comma
      if ← optional .key then
        let k ← nodeUnless .flow [.value, .comma, .sequenceClose] bound
        let v ← flowValue .sequenceClose bound
        let n ← collection none (return .mapping .map [(k, v)])
        return n :: (← flowItems bound false)
      else if ← optional .sequenceClose then return []
      else
        let n ← node .flow bound
        return n :: (← flowItems bound false)

/-- The entries up to a closing brace. What stands alone is a key. -/
def flowEntries : Nat → Bool → Read (List (Node × Node))
  | 0, _ => failure
  | bound + 1, isFirst => do
      if ← optional .mappingClose then return []
      if !isFirst then expect .comma
      if ← optional .key then
        let k ← nodeUnless .flow [.value, .comma, .mappingClose] bound
        let v ← flowValue .mappingClose bound
        return (k, v) :: (← flowEntries bound false)
      else if ← optional .mappingClose then return []
      else
        let k ← node .flow bound
        return (k, absent) :: (← flowEntries bound false)

end

-- =========================================================== documents

/-- Reads the directives before a document: at most one version, which
must be of the first generation, and each tag handle at most once. -/
def directives : Nat → Bool → List String → Read Unit
  | 0, _, _ => pure ()
  | bound + 1, versioned, handles => do
      match ← peek with
      | some (.version major) =>
          if versioned || major != 1 then failure
          skip
          directives bound true handles
      | some (.handle handle meaning) =>
          if handles.contains handle then failure
          modify fun r => { r with handles := (handle, meaning) :: r.handles }
          skip
          directives bound versioned (handle :: handles)
      | some .reserved =>
          skip
          directives bound versioned handles
      | _ => pure ()

/-- Whether a token opens a document that is marked. -/
def opensMarked : Token → Bool
  | .version _ => true
  | .handle _ _ => true
  | .reserved => true
  | .documentStart => true
  | _ => false

/-- The one document of a text, which must have no other behind it;
nothing if the text has none. -/
def document (bound : Nat) : Read (Option Node) := do
  match ← peek with
  | none => return none
  | some t =>
      let n ←
        if opensMarked t then do
          directives bound false []
          expect .documentStart
          let following ← peek
          if following.all fun t => opensMarked t || t == .documentEnd then
            pure absent
          else node .block bound
        else node .block bound
      modify fun r =>
        { r with tokens := r.tokens.dropWhile (· == .documentEnd) }
      if (← peek).isSome then failure
      return some n

end Read

/-- The node of a text, if it holds a document, and all its collections;
fails on a text that cannot be read. -/
def node? (text : List Char) : Option (Option Node × Collections) := do
  let tokens ← tokens? text
  let (n, r) ← (Read.document (4 * tokens.length + 8)).run { tokens }
  return (n, r.collections)

end KbDocs.Yaml
