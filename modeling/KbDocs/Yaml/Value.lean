/-
The values that a document holds, and how a value reads as text. Alone,
a text stands for itself and a moment for its usual form; inside a
collection a text is quoted and a moment is spelled out. A whole number
of more than 4300 digits has no text.

Collections are numbered, and a value that is one is its number: one
collection may be in several places, also inside of itself. There it is
written with dots for what it holds.
-/
import KbDocs.Decimal.Text
import KbDocs.Text.Quoted
import KbDocs.Yaml.Timestamp

namespace KbDocs.Yaml

/-- A value. -/
inductive Value where
  | null
  | bool (b : Bool)
  | int (n : Int)
  | float (f : Float)
  | text (s : String)
  | bytes (b : List UInt8)
  | timestamp (t : Timestamp)
  /-- A collection, by its number. -/
  | collection (number : Nat)

/-- What a collection holds. Mappings keep the order of their
entries. -/
inductive Collection where
  | list (items : List Value)
  | pair (first second : Value)
  | set (members : List Value)
  | map (entries : List (Value × Value))

/-- A value with the collections that it leads to, by number. -/
structure Document where
  root : Value
  collections : List (Nat × Collection)

namespace Value

-- ================================================================ text

/-- How many digits a whole number may have to be read or written in
decimal. -/
def digitLimit : Nat :=
  4300

/-- A whole number in decimal digits. -/
def intText? (n : Int) : Option String :=
  let digits := Nat.toDigits 10 n.natAbs
  if digitLimit < digits.length then none
  else some (String.ofList (if n < 0 then '-' :: digits else digits))

/-- The text of a value inside a collection, if it is none itself. -/
def scalarText? : Value → Option String
  | .null => some "None"
  | .bool true => some "True"
  | .bool false => some "False"
  | .int n => intText? n
  | .float f => some (Decimal.written f)
  | .text s => some (Text.quoted s)
  | .bytes b => some (Text.quotedBytes b)
  | .timestamp t => some t.spelled
  | .collection _ => none

-- ================================================================ keys

/-- Whether a value may be a key: collections may not. -/
def isKey : Value → Bool
  | .collection _ => false
  | _ => true

/-- The number that a value is, where yes and no count as one and
zero. -/
def number? : Value → Option Int
  | .bool b => some (if b then 1 else 0)
  | .int n => some n
  | .float f =>
      let bits := f.toBits
      if Decimal.isFinite bits then
        (Decimal.Binary.ofBits bits).whole?.map fun n =>
          if Decimal.isNegative bits then -(n : Int) else n
      else none
  | _ => none

/-- Whether two keys are the same. Numbers are compared by what they
are, in whatever way they are written, and what is no number is one
key. -/
def sameKey (a b : Value) : Bool :=
  match a, b with
  | .null, .null => true
  | .text s, .text t => s == t
  | .bytes s, .bytes t => s == t
  | .timestamp s, .timestamp t => s.sameMoment t
  | .float f, .float g => f == g || (f.isNaN && g.isNaN)
  | _, _ =>
      match a.number?, b.number? with
      | some m, some n => m == n
      | _, _ => false

/-- Entries with one more. A key that is there keeps its place and its
first spelling, and gets the new value. -/
def putEntry (entries : List (Value × Value)) (k v : Value) : List (Value × Value) :=
  if entries.any (fun e => sameKey e.1 k) then
    entries.map fun e => if sameKey e.1 k then (e.1, v) else e
  else entries ++ [(k, v)]

/-- Entries with each key once. -/
def distinct (entries : List (Value × Value)) : List (Value × Value) :=
  entries.foldl (fun es (k, v) => putEntry es k v) []

/-- What a mapping has under a name. -/
def get? (entries : List (Value × Value)) (name : String) : Option Value :=
  (entries.find? fun e => sameKey e.1 (.text name)).map (·.2)

end Value

-- ========================================================= collections

namespace Collection

/-- Texts in a row between brackets. -/
def bracketed (opening closing : String) (parts : List String) : String :=
  opening ++ Text.joinStrings ", " parts ++ closing

/-- The text of a collection, given those of the values in it. -/
def text? (inner? : Value → Option String) : Collection → Option String
  | .list items => do return bracketed "[" "]" (← items.mapM inner?)
  | .pair a b => do return bracketed "(" ")" [← inner? a, ← inner? b]
  | .set [] => some "set()"
  | .set members => do return bracketed "\x7b" "\x7d" (← members.mapM inner?)
  | .map entries => do
      return bracketed "\x7b" "\x7d"
        (← entries.mapM fun (k, v) => do return (← inner? k) ++ ": " ++ (← inner? v))

/-- The text of a collection inside of itself. -/
def recurringText : Collection → String
  | .list _ => "[...]"
  | .pair _ _ => "(...)"
  | .set _ => "set(...)"
  | .map _ => "\x7b...\x7d"

end Collection

namespace Document

/-- The text of a value inside the collections with some numbers. Each
collection is inside of one more than the one around it, so a bound on
how many may still be entered is never reached if it starts with the
number of all. -/
def inner? (d : Document) : Nat → List Nat → Value → Option String
  | bound, within, .collection n => do
      let c ← d.collections.lookup n
      if within.contains n then return c.recurringText
      match bound with
      | 0 => failure
      | bound + 1 => c.text? (d.inner? bound (n :: within))
  | _, _, v => v.scalarText?

/-- The text of a value alone. -/
def text? (d : Document) : Value → Option String
  | .text s => some s
  | .timestamp t => some t.text
  | v => d.inner? d.collections.length [] v

/-- The entries of a value that is a mapping. -/
def entries? (d : Document) : Value → Option (List (Value × Value))
  | .collection n =>
      match d.collections.lookup n with
      | some (.map entries) => some entries
      | _ => none
  | _ => none

/-- The items of a value that is a list. -/
def items? (d : Document) : Value → Option (List Value)
  | .collection n =>
      match d.collections.lookup n with
      | some (.list items) => some items
      | _ => none
  | _ => none

end Document

-- ============================================================= loaders

/-- What reads documents. -/
structure Loader where
  /-- The document in a text, if it can be read. -/
  load? : String → Option Document
  /-- The text of a value of a document, if it has one. -/
  text? : Document → Value → Option String

end KbDocs.Yaml
