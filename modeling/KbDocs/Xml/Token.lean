/-
Tokens of element content: tags, character data, references, CDATA
sections, comments and processing instructions. A token is read without
regard to what it means, so entity references stay references and an
attribute value stays the symbols between its quotes.

Every reader returns what follows the token. Whether tags match, names
are bound and entities exist is left to those who build the tree. Which
characters make names is up to the encoding of what is read, `coding`.
-/
import KbDocs.Xml.Fault
import KbDocs.Xml.NameChar

namespace KbDocs.Xml

variable (coding : Encoding)

/-- The white space of XML. -/
def isSpace (c : Char) : Bool :=
  c == ' ' || c == '\t' || c == '\n' || c == '\r'

/-- An attribute as written: its name, the place of the name, the
symbols of its value, and the document from the closing quote on. -/
structure RawAttribute where
  name : List Char
  place : List Symbol
  value : List Symbol
  after : List Symbol

/-- A token of element content. -/
inductive Token where
  | startTag (name : List Char) (attributes : List RawAttribute) (empty : Bool)
  /-- An end tag, with the place of its name. -/
  | endTag (name : List Char) (place : List Symbol)
  | text (data : List Char)
  /-- A reference to an entity by name. -/
  | entity (name : List Char)
  /-- A reference to a character by number, if there is one of it. -/
  | character (c : Option Char)
  /-- A comment or a processing instruction. -/
  | aside
  /-- A document declaration, which content cannot hold. -/
  | declaration
  /-- A carriage return as the last symbol there is. -/
  | finalReturn

-- ============================================================== names

/-- The longest run of name characters. -/
def nameRun : List Symbol → List Char × List Symbol
  | .char c :: r =>
      if isNameChar coding c then
        let run := nameRun r
        (c :: run.1, run.2)
      else ([], .char c :: r)
  | s => ([], s)

/-- The longest run of white space. -/
def skipSpace : List Symbol → List Symbol
  | .char c :: r => if isSpace c then skipSpace r else .char c :: r
  | s => s

/-- A name without a colon. -/
def plainName (s : List Symbol) : Except Stop (List Char × List Symbol) := do
  let (c, r) ← next s
  if isNameStart coding c then
    let (tail, rest) := nameRun coding r
    return (c :: tail, rest)
  else throw (.invalid s)

/-- A name with at most one colon, between two plain names. -/
def qualifiedName (s : List Symbol) : Except Stop (List Char × List Symbol) := do
  let (name, rest) ← plainName coding s
  match rest with
  | .char ':' :: r =>
      let (locally, rest) ← plainName coding r
      return (name ++ ':' :: locally, rest)
  | _ => return (name, rest)

-- ========================================================= references

/-- A character by its number, if XML admits it. -/
def characterOfNumber (n : Nat) : Option Char :=
  if isXmlChar n then some (Char.ofNat n) else none

/-- The value of a digit up to a base of sixteen. -/
def digitValue? (c : Char) : Option Nat :=
  if c.isDigit then some (c.toNat - '0'.toNat)
  else if 'a' ≤ c && c ≤ 'f' then some (c.toNat - 'a'.toNat + 10)
  else if 'A' ≤ c && c ≤ 'F' then some (c.toNat - 'A'.toNat + 10)
  else none

/-- The digits of a character reference up to its semicolon, after the
number `n` read so far. Numbers beyond the last code point are all the
same. -/
def referenceDigits (base n : Nat) : List Symbol → Except Stop (Nat × List Symbol)
  | .char c :: r =>
      if c = ';' then .ok (n, r)
      else
        match digitValue? c with
        | some d =>
            if d < base then referenceDigits base (min (n * base + d) 0x110000) r
            else .error (.invalid (.char c :: r))
        | none => .error (.invalid (.char c :: r))
  | s => do
      let _ ← nextMark s
      throw .ended

/-- A number of at least one digit and a semicolon. -/
def referenceNumber (base : Nat) (s : List Symbol) : Except Stop (Nat × List Symbol) :=
  match s with
  | .char ';' :: _ => .error (.invalid s)
  | _ => referenceDigits base 0 s

/-- A reference, after its ampersand. -/
def reference (s : List Symbol) : Except Stop (Token × List Symbol) := do
  let (c, r) ← next s
  if c = '#' then
    let (n, rest) ←
      match r with
      | .char 'x' :: r => referenceNumber 16 r
      | _ => referenceNumber 10 r
    return (.character (characterOfNumber n), rest)
  else
    let (name, rest) ← plainName coding s
    let (d, after) ← next rest
    if d = ';' then return (.entity name, after) else throw (.invalid rest)

-- ============================================== comments, instructions

/-- The rest of a comment, after its opening hyphens. -/
def commentTail : List Symbol → Except Stop (List Symbol)
  | .char '-' :: .char '-' :: r => do
      let (c, after) ← nextMark r
      if c = '>' then return after else throw (.invalid r)
  | .char _ :: r => commentTail r
  | s => do
      let _ ← next s
      throw .ended

/-- A comment, after `<!-`. -/
def comment (s : List Symbol) : Except Stop (List Symbol) := do
  let (c, r) ← nextMark s
  if c = '-' then commentTail r else throw (.invalid s)

/-- The rest of a processing instruction, after its target: its text and
what follows it. -/
def instructionTail : List Symbol → Except Stop (List Char × List Symbol)
  | .char '?' :: .char '>' :: r => .ok ([], r)
  | .char c :: r => do
      let (text, rest) ← instructionTail r
      return (c :: text, rest)
  | s => do
      let _ ← next s
      throw .ended

/-- A processing instruction, after `<?`: whether its target is `xml`,
which makes it a document declaration. -/
def instruction (s : List Symbol) : Except Stop (Bool × List Symbol) := do
  let (target, rest) ← plainName coding s
  let (c, r) ← next rest
  let isXml := target.map Char.toLower = "xml".toList
  if isSpace c || c = '?' then
    if isXml && target != "xml".toList then throw (.invalid rest)
  if isSpace c then
    let (_, after) ← instructionTail r
    return (isXml, after)
  else if c = '?' then
    let (d, after) ← nextMark r
    if d = '>' then return (isXml, after) else throw (.invalid r)
  else throw (.invalid rest)

-- =============================================================== tags

/-- The symbols of an attribute value up to its closing quote. -/
def attributeValue (quote : Char) : List Symbol → Except Stop (List Symbol × List Symbol)
  | .char c :: r => do
      if c = quote then return ([], r)
      if c = '<' then throw (.invalid (.char c :: r))
      if c = '&' then
        let _ ← reference coding r
      let (value, after) ← attributeValue quote r
      return (.char c :: value, after)
  | s => do
      let _ ← next s
      throw .ended

/-- The end of a tag, after its slash. -/
def closeEmpty (s : List Symbol) : Except Stop (List Symbol) := do
  let (c, r) ← nextMark s
  if c = '>' then return r else throw (.invalid s)

/-- The attributes of a start tag up to its end, from the first name on:
the attributes, and whether the element is empty. -/
def attributes (s : List Symbol) (fuel : Nat) :
    Except Stop ((List RawAttribute × Bool) × List Symbol) :=
  match fuel with
  | 0 => .error .ended
  | fuel + 1 => do
      let (name, afterName) ← qualifiedName coding s
      let _ ← next afterName
      let equals := skipSpace afterName
      let (e, afterEquals) ← nextMark equals
      if e != '=' then throw (.invalid equals)
      let opening := skipSpace afterEquals
      let (quote, afterQuote) ← nextMark opening
      if quote != '"' && quote != '\x27' then throw (.invalid opening)
      let (value, after) ← attributeValue coding quote afterQuote
      let first : RawAttribute := ⟨name, s, value, .char quote :: after⟩
      let (c, r) ← nextMark after
      if c = '>' then return (([first], false), r)
      else if c = '/' then return (([first], true), ← closeEmpty r)
      else if isSpace c then
        let following := skipSpace r
        let (d, q) ← next following
        if d = '>' then return (([first], false), q)
        else if d = '/' then return (([first], true), ← closeEmpty q)
        else if isNameStart coding d then
          let ((more, empty), rest) ← attributes following fuel
          return ((first :: more, empty), rest)
        else throw (.invalid following)
      else throw (.invalid after)

/-- A start tag, after its `<`. -/
def startTag (fuel : Nat) (s : List Symbol) : Except Stop (Token × List Symbol) := do
  let (name, rest) ← qualifiedName coding s
  let (c, r) ← next rest
  if c = '>' then return (.startTag name [] false, r)
  else if c = '/' then return (.startTag name [] true, ← closeEmpty r)
  else if isSpace c then
    let following := skipSpace r
    let (d, q) ← next following
    if d = '>' then return (.startTag name [] false, q)
    else if d = '/' then return (.startTag name [] true, ← closeEmpty q)
    else if isNameStart coding d then
      let ((atts, empty), rest) ← attributes coding following fuel
      return (.startTag name atts empty, rest)
    else throw (.invalid following)
  else throw (.invalid rest)

/-- The longest run of name characters and colons. -/
def colonNameRun : List Symbol → List Char × List Symbol
  | .char c :: r =>
      if isNameChar coding c || c == ':' then
        let run := colonNameRun r
        (c :: run.1, run.2)
      else ([], .char c :: r)
  | s => ([], s)

/-- An end tag, after its `</`. -/
def endTag (s : List Symbol) : Except Stop (Token × List Symbol) := do
  let (c, r) ← next s
  if isNameStart coding c then
    let (tail, rest) := colonNameRun coding r
    let _ ← next rest
    let closing := skipSpace rest
    let (d, after) ← nextMark closing
    if d = '>' then return (.endTag (c :: tail) s, after)
    else throw (.invalid closing)
  else throw (.invalid s)

-- ===================================================== character data

/-- The content of a CDATA section up to its close. A section that is
not closed is a fault at its end, before up to two brackets that may
belong to the close, or before a last carriage return. -/
def cdataTail : List Symbol → Except Fault (List Char × List Symbol)
  | .char ']' :: .char ']' :: .char '>' :: r => .ok ([], r)
  | [.char ']', .char ']'] => .error ⟨.unclosedCdata, [.char ']', .char ']']⟩
  | [.char ']'] => .error ⟨.unclosedCdata, [.char ']']⟩
  | [.char '\r'] => .error ⟨.unclosedCdata, [.char '\r']⟩
  | .char '\r' :: .char '\n' :: r => do
      let (data, rest) ← cdataTail r
      return ('\n' :: data, rest)
  | .char c :: r => do
      let (data, rest) ← cdataTail r
      return ((if c = '\r' then '\n' else c) :: data, rest)
  | [] => .error ⟨.unclosedCdata, []⟩
  | [.oddByte] => .error ⟨.unclosedCdata, [.oddByte]⟩
  | .cutOff :: r => .error ⟨.partialCharacter, .cutOff :: r⟩
  | s => .error ⟨.invalidToken, s⟩

/-- The longest run of character data, with line ends as line feeds. It
ends before markup, a reference, a faulty symbol, a last carriage return
and the close of a CDATA section. -/
def textRun : List Symbol → List Char × List Symbol
  | .char ']' :: .char ']' :: .char '>' :: r =>
      ([], .char ']' :: .char ']' :: .char '>' :: r)
  | [.char '\r'] => ([], [.char '\r'])
  | .char '\r' :: .char '\n' :: r =>
      let run := textRun r
      ('\n' :: run.1, run.2)
  | .char c :: r =>
      if c = '<' || c = '&' then ([], .char c :: r)
      else
        let run := textRun r
        ((if c = '\r' then '\n' else c) :: run.1, run.2)
  | s => ([], s)

/-- The opening of a CDATA section, after `<![`. -/
def cdataOpen (s : List Symbol) : Except Stop (List Symbol) :=
  let rec go : List Char → List Symbol → Except Stop (List Symbol)
    | [], s => .ok s
    | k :: ks, .char c :: r =>
        if c = k then go ks r else .error (.invalid (.char c :: r))
    | _ :: _, s => .error (.invalid s)
  if (s.take 6).length < 6 then .error .ended else go "CDATA[".toList s

/-- Markup in content, after its `<` at `start`. -/
def markup (fuel : Nat) (start s : List Symbol) : Except Fault (Token × List Symbol) :=
  let stop {α : Type} (result : Except Stop α) : Except Fault α :=
    result.mapError (Stop.toFault start)
  do
    let (c, r) ← stop (next s)
    if c = '!' then
      let (d, q) ← stop (nextMark r)
      if d = '-' then return (.aside, ← stop (comment q))
      else if d = '[' then
        let inside ← stop (cdataOpen q)
        let (data, rest) ← cdataTail inside
        return (.text data, rest)
      else throw ⟨.invalidToken, r⟩
    else if c = '?' then
      let (isXml, rest) ← stop (instruction coding r)
      return (if isXml then .declaration else .aside, rest)
    else if c = '/' then stop (endTag coding r)
    else stop (startTag coding fuel s)

/-- The first token of some content that is not empty. The content is no
longer than `fuel`. -/
def contentToken (fuel : Nat) (s : List Symbol) : Except Fault (Token × List Symbol) :=
  match s with
  | .char ']' :: .char ']' :: .char '>' :: r => .error ⟨.invalidToken, .char '>' :: r⟩
  | [.char '\r'] => .ok (.finalReturn, [])
  | .char '<' :: r => markup coding fuel s r
  | .char '&' :: r => (reference coding r).mapError (Stop.toFault s)
  | .char _ :: _ =>
      let (data, rest) := textRun s
      .ok (.text data, rest)
  | s =>
      match next s with
      | .error stop => .error (stop.toFault s)
      | .ok _ => .error ⟨.invalidToken, s⟩

end KbDocs.Xml
