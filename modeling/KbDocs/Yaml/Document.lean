/-
From the nodes of a document to its values. Scalars are read by their
tag; a mapping takes in the entries of the mappings it merges in front
of its own, so that its own come last and win.
-/
import KbDocs.Text.Case
import KbDocs.Yaml.Base64
import KbDocs.Yaml.Node
import KbDocs.Yaml.Value

namespace KbDocs.Yaml

-- ============================================================= numbers

/-- The letter that marks a base behind a zero. -/
def baseLetter? : Nat → Option Char
  | 2 => some 'b'
  | 8 => some 'o'
  | 16 => some 'x'
  | _ => none

/-- The digits of a number behind the mark of its base, if it has
one. -/
def withoutBaseMark (base : Nat) (s : List Char) : List Char :=
  match s with
  | '0' :: c :: r => if baseLetter? base == some c.toLower then r else s
  | _ => s

/-- A whole number in a base, with blanks around it and a sign
allowed. -/
def wholeNumber? (base : Nat) (s : List Char) : Option Int := do
  let t := Text.trim s
  let digits := withoutBaseMark base (unsigned t)
  if digits.isEmpty || (base == 10 && Value.digitLimit < digits.length) then
    failure
  let values ← digits.mapM hexValue?
  if values.any (base ≤ ·) then failure
  let n := values.foldl (fun n d => n * base + d) 0
  return if t.head? == some '-' then -(n : Int) else n

/-- A whole number: binary, hexadecimal or octal by its first digits, in
sixties if it has colons, otherwise decimal. -/
def intOf? (text : String) : Option Int := do
  let signed := text.toList.filter (· != '_')
  let s := unsigned signed
  let n ←
    if s.isEmpty then none
    else if s == ['0'] then some 0
    else if ['0', 'b'].isPrefixOf s then wholeNumber? 2 (s.drop 2)
    else if ['0', 'x'].isPrefixOf s then wholeNumber? 16 (s.drop 2)
    else if s.head? == some '0' then wholeNumber? 8 s
    else
      ((Text.pieces ':' s).mapM (wholeNumber? 10)).map
        (·.foldl (fun n d => n * 60 + d) 0)
  return if signed.head? == some '-' then -n else n

/-- A sum of numbers in sixties, the last of which comes first. -/
def sixtiesSum (sum : Float) (base : Nat) : List Float → Float
  | [] => sum
  | f :: rest => sixtiesSum (sum + f * Float.ofNat base) (base * 60) rest

/-- A number with a point, in sixties if it has colons. -/
def floatOf? (text : String) : Option Float := do
  let signed := Text.lower (text.toList.filter (· != '_'))
  let s := unsigned signed
  let f ←
    if s.isEmpty then none
    else if s == ".inf".toList then some Decimal.infinite
    else if s == ".nan".toList then some (0.0 / 0.0)
    else if s.contains ':' then
      ((Text.pieces ':' s).mapM Decimal.read?).map
        fun parts => sixtiesSum 0.0 1 parts.reverse
    else Decimal.read? s
  return if signed.head? == some '-' then -f else f

-- ============================================================= scalars

/-- The answer that a word in lower case gives. -/
def boolOf? (word : String) : Option Bool :=
  if ["yes", "true", "on"].contains word then some true
  else if ["no", "false", "off"].contains word then some false
  else none

/-- A date or a moment that exists. -/
def timestampOf? (text : String) : Option Timestamp := do
  let t ← Timestamp.fields? 1 (withoutLastBreak text.toList)
  if t.isValid then return t else failure

/-- The value of a text by a tag. Tags of collections do not fit, and
neither do those that only keys may have. -/
def Value.ofScalar? (tag : Tag) (text : String) : Option Value :=
  match tag with
  | .null => some .null
  | .bool => (boolOf? (Text.lowercase text)).map .bool
  | .int => (intOf? text).map .int
  | .float => (floatOf? text).map .float
  | .binary => (base64? text.toList).map .bytes
  | .timestamp => (timestampOf? text).map .timestamp
  | .text => some (.text text)
  | _ => none

-- =============================================================== nodes

namespace Collections

/-- The tag of a node. -/
def tag? (cs : Collections) : Node → Option Tag
  | .scalar tag _ => some tag
  | .collection n =>
      (cs.lookup n).map fun
        | .sequence tag _ => tag
        | .mapping tag _ => tag

/-- The entries of a node that is a mapping. -/
def entries? (cs : Collections) : Node → Option (List (Node × Node))
  | .collection n =>
      match cs.lookup n with
      | some (.mapping _ entries) => some entries
      | _ => none
  | .scalar _ _ => none

/-- The text of a node that is read as a scalar: for a mapping, the text
under its value key. -/
def scalarText? (cs : Collections) : Nat → Node → Option String
  | _, .scalar _ text => some text
  | 0, .collection _ => none
  | bound + 1, .collection n => do
      let entries ← cs.entries? (.collection n)
      let (_, v) ← entries.find? fun e => cs.tag? e.1 == some .value
      cs.scalarText? bound v

/-- The entries of a mapping behind those that it takes in. What it takes
in is a mapping, or a list of mappings of which the first counts most
and so comes last. A mapping that comes to take in itself has only its
own entries to give. -/
def taken? (cs : Collections) : Nat → List Nat → Node → Option (List (Node × Node))
  | 0, _, _ => none
  | _, _, .scalar _ _ => none
  | bound + 1, within, .collection n => do
      let entries ← cs.entries? (.collection n)
      let (merges, own) := entries.partition fun e => cs.tag? e.1 == some .merge
      if within.contains n then return own
      let parts ← merges.mapM fun e =>
        match e.2 with
        | .scalar _ _ => failure
        | .collection m =>
            match cs.lookup m with
            | some (.sequence _ items) => do
                return (← items.mapM (cs.taken? bound (n :: within))).reverse.flatten
            | _ => cs.taken? bound (n :: within) (.collection m)
      return parts.flatten ++ own

end Collections

-- ============================================================== values

/-- How far the collections of a document have been built. -/
structure Builder where
  /-- What collections hold, the latest first. -/
  collections : List (Nat × Collection) := []
  /-- The number of the next pair. -/
  next : Nat

/-- A step of building collections. -/
abbrev Build :=
  StateT Builder Option

namespace Build

/-- Lets a number stand for a collection. -/
def put (n : Nat) (c : Collection) : Build Value := do
  modify fun b => { b with collections := (n, c) :: b.collections }
  return .collection n

/-- A pair, under a number of its own. -/
def pair (first second : Value) : Build Value := do
  let n := (← get).next
  modify fun b => { b with next := n + 1 }
  put n (.pair first second)

/-- The entries of a mapping with each key once, given the values of
nodes. -/
def entries (cs : Collections) (value : Node → Build Value) (n : Nat) :
    Build (List (Value × Value)) := do
  let entries ← (cs.taken? (cs.length + 1) [] (.collection n) : Option (List (Node × Node)))
  return Value.distinct (← entries.mapM fun (k, v) => do
    let key ←
      if cs.tag? k == some .value then
        let text ← (cs.scalarText? (cs.length + 1) k : Option String)
        pure (.text text)
      else value k
    if key.isKey then return (key, ← value v) else failure)

/-- The pair of a mapping with one entry, given the values of nodes. -/
def entryPair (cs : Collections) (value : Node → Build Value) (item : Node) :
    Build Value := do
  match cs.entries? item with
  | some [(k, v)] => pair (← value k) (← value v)
  | _ => failure

/-- The value of a node. A collection is begun before the nodes in it are
looked at, and one that has been begun is not begun again, so a bound of
one more than the number of collections is never reached. -/
def value (cs : Collections) : Nat → Node → Build Value
  | _, .scalar tag text => Value.ofScalar? tag text
  | 0, .collection _ => failure
  | bound + 1, .collection n => do
      if ((← get).collections.lookup n).isSome then return .collection n
      match ← (cs.lookup n : Option Contents) with
      | .sequence .list items =>
          let _ ← put n (.list [])
          put n (.list (← items.mapM (value cs bound)))
      | .sequence .pairs items =>
          let _ ← put n (.list [])
          put n (.list (← items.mapM (entryPair cs (value cs bound))))
      | .sequence _ _ => failure
      | .mapping .map _ =>
          let _ ← put n (.map [])
          put n (.map (← entries cs (value cs bound) n))
      | .mapping .set _ =>
          let _ ← put n (.set [])
          put n (.set ((← entries cs (value cs bound) n).map (·.1)))
      | .mapping .timestamp _ => failure
      | .mapping tag _ =>
          let text ← (cs.scalarText? (cs.length + 1) (.collection n) : Option String)
          Value.ofScalar? tag text

end Build

-- =========================================================== documents

/-- Whether a character may stand in a text at all. -/
def isReadable (c : Char) : Bool :=
  let n := c.toNat
  n == 9 || n == 10 || n == 13 || (32 ≤ n && n ≤ 126) || n == 0x85
    || (0xA0 ≤ n && n ≤ 0xFFFD) || 0x10000 ≤ n

/-- A text with every line end that ASCII knows as a line feed. -/
def unifyLineEnds : List Char → List Char
  | [] => []
  | '\r' :: '\n' :: r => '\n' :: unifyLineEnds r
  | '\r' :: r => '\n' :: unifyLineEnds r
  | c :: r => c :: unifyLineEnds r

/-- The document in a text, whose value is nothing if there is none. -/
def load? (text : String) : Option Document := do
  let s := unifyLineEnds text.toList
  if !s.all isReadable then failure
  match ← node? s with
  | (some n, cs) =>
      let (root, b) ← (Build.value cs (cs.length + 1) n).run { next := cs.length }
      return ⟨root, b.collections⟩
  | (none, _) => return ⟨.null, []⟩

/-- The loader in use. -/
def Loader.basic : Loader where
  load? := Yaml.load?
  text? := Document.text?

end KbDocs.Yaml
