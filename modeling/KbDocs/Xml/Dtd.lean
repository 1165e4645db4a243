/-
What the document type declaration says that matters for content:
entities and their replacement text, and attributes with their defaults.
The first declaration of an entity or of an attribute's default counts.

A document that refers to declarations outside itself is incomplete: a
name that it does not declare may be declared there.
-/
import KbDocs.Text.Cut
import KbDocs.Xml.Token

namespace KbDocs.Xml

/-- What an entity stands for. -/
inductive EntityBody where
  /-- Text given in the document itself. -/
  | internal (text : List Char)
  /-- Another file, which is never read. -/
  | external
  /-- Data that is not XML. -/
  | unparsed

/-- A declared attribute of an element. -/
structure AttributeRule where
  element : List Char
  attr : List Char
  /-- Whether white space in its values is collapsed. -/
  tokenized : Bool
  default : Option (List Char)

/-- The declarations of a document. -/
structure Dtd where
  entities : List (List Char × EntityBody) := []
  rules : List AttributeRule := []
  incomplete : Bool := false
  standalone : Bool := false

/-- Whether every entity that is referred to must be declared in the
document. -/
def Dtd.closed (dtd : Dtd) : Bool :=
  !dtd.incomplete || dtd.standalone

/-- The character of an entity that needs no declaration. -/
def predefinedEntity? (name : List Char) : Option Char :=
  match String.ofList name with
  | "lt" => some '<'
  | "gt" => some '>'
  | "amp" => some '&'
  | "quot" => some '"'
  | "apos" => some '\x27'
  | _ => none

/-- The entity of a name. -/
def Dtd.entity? (dtd : Dtd) (name : List Char) : Option EntityBody :=
  dtd.entities.lookup name

/-- The declarations with one more entity, unless it is declared. -/
def Dtd.addEntity (dtd : Dtd) (name : List Char) (body : EntityBody) : Dtd :=
  match dtd.entity? name with
  | some _ => dtd
  | none => { dtd with entities := dtd.entities ++ [(name, body)] }

/-- The declarations with an external entity marked as not being XML. -/
def Dtd.markUnparsed (dtd : Dtd) (name : List Char) : Dtd :=
  { dtd with entities := dtd.entities.map fun (n, body) =>
      (n, if n = name then .unparsed else body) }

/-- The first rule for an attribute of an element. -/
def Dtd.rule? (dtd : Dtd) (element attr : List Char) : Option AttributeRule :=
  dtd.rules.find? fun r => r.element = element && r.attr = attr

/-- The declarations with one more attribute. A rule that gives a default
or marks an identifier counts only as the first of its attribute. -/
def Dtd.addRule (dtd : Dtd) (rule : AttributeRule) (identifier : Bool) : Dtd :=
  if (rule.default.isSome || identifier)
      && (dtd.rule? rule.element rule.attr).isSome then dtd
  else { dtd with rules := dtd.rules ++ [rule] }

/-- A text as symbols. -/
def symbolsOf (text : List Char) : List Symbol :=
  text.map .char

-- =================================================== attribute values

/-- A fault in a value: what is wrong and, when it lies in the document
itself, where. -/
abbrev ValueFault :=
  Cause × Option (List Symbol)

/-- The text of an attribute value: references replaced, each line end
and each other white space character a space. Entities that are being
replaced are `opened`; what a further one stands for is read by
`inside?`, unless no more can be opened. The value is shorter than
`fuel`. Places are known in the document, where the value is followed by
`after`, and not within replacement text. The characters were encoded by
`coding`; replacement text is always kept in UTF-8. -/
def expandValueWith (coding : Encoding) (dtd : Dtd) (opened : List (List Char))
    (after : Option (List Symbol))
    (inside? : Option (List Char → List Char → Except ValueFault (List Char)))
    (fuel : Nat) (s : List Symbol) : Except ValueFault (List Char) :=
  let place (rest : List Symbol) : Option (List Symbol) :=
    after.map (rest ++ ·)
  match fuel, s with
  | _, [] => .ok []
  | 0, _ => .ok []
  | fuel + 1, .char '\r' :: .char '\n' :: r => do
      return ' ' :: (← expandValueWith coding dtd opened after inside? fuel r)
  | fuel + 1, .char '&' :: r => do
      match reference coding r with
      | .error (.invalid rest) => throw (.invalidToken, place rest)
      | .error _ => throw (.invalidToken, place s)
      | .ok (.character none, _) => throw (.badCharacterNumber, place s)
      | .ok (.character (some c), rest) =>
          return c :: (← expandValueWith coding dtd opened after inside? fuel rest)
      | .ok (.entity name, rest) =>
          match predefinedEntity? name with
          | some c => return c :: (← expandValueWith coding dtd opened after inside? fuel rest)
          | none =>
              match dtd.entity? name with
              | none =>
                  if dtd.closed then throw (.undefinedEntity, none)
                  else expandValueWith coding dtd opened after inside? fuel rest
              | some body =>
                  if opened.contains name then throw (.recursiveEntity, place s)
                  match body with
                  | .unparsed => throw (.binaryEntity, place s)
                  | .external => throw (.externalEntityInAttribute, place s)
                  | .internal text =>
                      match inside? with
                      | none => throw (.recursiveEntity, place s)
                      | some inside =>
                          let inner ← inside name text
                          let outer ← expandValueWith coding dtd opened after inside? fuel rest
                          return inner ++ outer
      | .ok (_, _) => throw (.invalidToken, place s)
  | _ + 1, .char '<' :: _ => .error (.invalidToken, place s)
  | fuel + 1, .char c :: r => do
      return (if isSpace c then ' ' else c)
        :: (← expandValueWith coding dtd opened after inside? fuel r)
  | _ + 1, _ :: _ => .error (.invalidToken, place s)

/-- The text of an attribute value within which at most `depth` entities
are opened one inside another. -/
def expandValue (coding : Encoding) (dtd : Dtd) (opened : List (List Char))
    (after : Option (List Symbol)) (depth fuel : Nat) (s : List Symbol) : Except ValueFault (List Char) :=
  match depth with
  | 0 => expandValueWith coding dtd opened after none fuel s
  | depth + 1 =>
      let inside (name text : List Char) : Except ValueFault (List Char) :=
        expandValue .utf8 dtd (name :: opened) none depth (text.length + 1) (symbolsOf text)
      expandValueWith coding dtd opened after (some inside) fuel s

/-- Runs of spaces as one, and none at either end. -/
def collapseSpaces (s : List Char) : List Char :=
  Text.join [' '] ((Text.pieces ' ' s).filter fun p => !p.isEmpty)

/-- The value of an attribute as written in the document, where it is
followed by `after`. -/
def Dtd.attributeText (coding : Encoding) (dtd : Dtd) (tokenized : Bool)
    (value after : List Symbol) : Except ValueFault (List Char) := do
  let depth := dtd.entities.length + 1
  let text ← expandValue coding dtd [] (some after) depth (value.length + 1) value
  return if tokenized then collapseSpaces text else text

-- ====================================================== entity values

/-- The replacement text that an entity is declared with: character
references replaced, other references left as they stand. Parameters
cannot be referred to here. The value is shorter than `fuel`, and its
place in the document ends with `after`. -/
def entityText (coding : Encoding) (after : List Symbol) (fuel : Nat) (s : List Symbol) :
    Except Fault (List Char) :=
  let fault (cause : Cause) (rest : List Symbol) : Fault := ⟨cause, rest ++ after⟩
  match fuel, s with
  | _, [] => .ok []
  | 0, _ => .ok []
  | fuel + 1, .char '\r' :: .char '\n' :: r => do
      return '\n' :: (← entityText coding after fuel r)
  | fuel + 1, .char '&' :: r => do
      match reference coding r with
      | .error (.invalid rest) => throw (fault .invalidToken rest)
      | .error _ => throw (fault .invalidToken s)
      | .ok (.character none, _) => throw (fault .badCharacterNumber s)
      | .ok (.character (some c), rest) => return c :: (← entityText coding after fuel rest)
      | .ok (.entity name, rest) =>
          return '&' :: name ++ ';' :: (← entityText coding after fuel rest)
      | .ok (_, _) => throw (fault .invalidToken s)
  | _ + 1, .char '%' :: r => do
      match plainName coding r with
      | .error (.invalid rest) => throw (fault .invalidToken rest)
      | .error _ => throw (fault .invalidToken s)
      | .ok (_, .char ';' :: _) => throw (fault .illegalParameterReference s)
      | .ok (_, []) => throw (fault .invalidToken s)
      | .ok (_, rest) => throw (fault .invalidToken rest)
  | fuel + 1, .char c :: r => do
      return (if c = '\r' then '\n' else c) :: (← entityText coding after fuel r)
  | _ + 1, _ :: _ => .error (fault .invalidToken s)

end KbDocs.Xml
