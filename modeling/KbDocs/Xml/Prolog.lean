/-
The prolog of a document: comments, processing instructions and the
document type declaration, up to the first element. It is cut into
tokens, and each token moves a `Place` in the grammar on; a token that
no rule of the grammar allows at its place is a syntax error there.

Of the declarations only those for entities and attributes are kept.
Once a parameter has been referred to, what it stands for is not known,
and later declarations no longer count.
-/
import KbDocs.Xml.Dtd

namespace KbDocs.Xml

variable (coding : Encoding)

-- ============================================================= tokens

/-- A token of the prolog. -/
inductive PrologToken where
  | space
  | comment
  | instruction
  /-- A document declaration. -/
  | declaration
  /-- The opening of a markup declaration with its keyword. -/
  | declOpen (keyword : List Char)
  /-- The `<` of the first element. -/
  | instanceStart
  | openBracket
  | closeBracket
  | openParen
  /-- A closing parenthesis, and whether an asterisk or another repeat
  mark follows. -/
  | closeParen (repeated : Option Char)
  | bar
  | comma
  | declClose
  | name (text : List Char) (qualified : Bool)
  | nameToken
  /-- A name with a repeat mark. -/
  | nameRepeated
  /-- A keyword behind a number sign. -/
  | hashName (text : List Char)
  /-- A quoted text, and the document from its closing quote on. -/
  | literal (value after : List Symbol)
  | percent
  | parameterReference
  | sectionOpen
  | sectionClose

/-- What kind of name a run of name characters is, by its colons: a
name, a name with a namespace part, or neither. -/
inductive NameKind where
  | plain
  | qualified
  | token

/-- Whether a name token can end before a character. -/
def endsName (c : Char) : Bool :=
  isSpace c || ['>', ')', ',', '|', '[', '%'].contains c

/-- The rest of a name or name token, with its text so far reversed. -/
def nameTokenTail (kind : NameKind) (text : List Char) :
    List Symbol → Except Stop (PrologToken × List Symbol)
  | .char c :: r =>
      if isNameChar coding c then nameTokenTail kind (c :: text) r
      else if endsName c then .ok (finished, .char c :: r)
      else if c = ':' then
        match kind with
        | .plain =>
            match r with
            | .char d :: q =>
                if isNameChar coding d then nameTokenTail .qualified (d :: c :: text) q
                else nameTokenTail .token (c :: text) (.char d :: q)
            | [] => .error .ended
            | s => nameTokenTail .token (c :: text) s
        | _ => nameTokenTail .token (c :: text) r
      else if c = '+' || c = '*' || c = '?' then
        match kind with
        | .token => .error (.invalid (.char c :: r))
        | _ => .ok (.nameRepeated, r)
      else .error (.invalid (.char c :: r))
  | [] => .ok (finished, [])
  | .oddByte :: r => .ok (finished, .oddByte :: r)
  | s => do
      let _ ← next s
      throw .ended
where
  finished : PrologToken :=
    match kind with
    | .plain => .name text.reverse false
    | .qualified => .name text.reverse true
    | .token => .nameToken

/-- A quoted text, after its opening quote. -/
def literalTail (quote : Char) : List Symbol → Except Stop (List Symbol × List Symbol)
  | .char c :: r =>
      if c = quote then
        match r with
        | [] => .ok ([], r)
        | .oddByte :: _ => .ok ([], r)
        | .char d :: _ =>
            if isSpace d || d = '>' || d = '%' || d = '[' then .ok ([], r)
            else .error (.invalid r)
        | _ => .error (.invalid r)
      else (literalTail quote r).map fun (value, rest) => (.char c :: value, rest)
  | s => do
      let _ ← next s
      throw .ended

/-- The keyword of a markup declaration, after `<!`. -/
def declKeyword (text : List Char) :
    List Symbol → Except Stop (List Char × List Symbol)
  | .char c :: r =>
      if isKeywordLetter coding c then declKeyword (c :: text) r
      else if isSpace c then .ok (text.reverse, .char c :: r)
      else if c = '%' then
        match r with
        | [] => .error .ended
        | .char d :: _ =>
            if isSpace d || d = '%' then .error (.invalid (.char c :: r))
            else .ok (text.reverse, .char c :: r)
        | _ => .ok (text.reverse, .char c :: r)
      else .error (.invalid (.char c :: r))
  | s => do
      let _ ← nextMark s
      throw .ended

/-- A token that starts with `<`, after it; `start` is its place. -/
def prologMarkup (start s : List Symbol) : Except Stop (PrologToken × List Symbol) := do
  match s with
  | .char '!' :: r =>
      let (c, q) ← nextMark r
      if c = '-' then return (.comment, ← comment q)
      else if c = '[' then return (.sectionOpen, q)
      else if isKeywordLetter coding c then
        let (keyword, rest) ← declKeyword coding [c] q
        return (.declOpen keyword, rest)
      else throw (.invalid r)
  | .char '?' :: r =>
      let (isXml, rest) ← instruction coding r
      return (if isXml then .declaration else .instruction, rest)
  | .char c :: _ =>
      if startsElement coding c then return (.instanceStart, start)
      else throw (.invalid s)
  | .malformed :: _ => throw (.invalid s)
  | .broken :: _ => return (.instanceStart, start)
  | .cutOff :: _ => return (.instanceStart, start)
  | _ => throw .ended

/-- The first token of a prolog that is not empty. -/
def prologToken (s : List Symbol) : Except Stop (PrologToken × List Symbol) :=
  match s with
  | .char c :: r =>
      if isSpace c then .ok (.space, skipSpace r)
      else if c = '<' then prologMarkup coding s r
      else if c = '"' || c = '\x27' then
        (literalTail c r).map fun (value, rest) =>
          (.literal value (.char c :: rest), rest)
      else if c = '%' then do
        let (d, _) ← next r
        if isSpace d || d = '%' then return (.percent, r)
        let (_, rest) ← plainName coding r
        let (e, after) ← next rest
        if e = ';' then return (.parameterReference, after) else throw (.invalid rest)
      else if c = ',' then .ok (.comma, r)
      else if c = '|' then .ok (.bar, r)
      else if c = '>' then .ok (.declClose, r)
      else if c = '(' then .ok (.openParen, r)
      else if c = '[' then .ok (.openBracket, r)
      else if c = ']' then
        match r with
        | .char ']' :: .char '>' :: q => .ok (.sectionClose, q)
        | [.char ']'] => .error .ended
        | _ => .ok (.closeBracket, r)
      else if c = ')' then
        match r with
        | [] => .ok (.closeParen none, r)
        | .char d :: q =>
            if d = '*' || d = '?' || d = '+' then .ok (.closeParen (some d), q)
            else if isSpace d || d = '>' || d = ',' || d = '|' || d = ')' then
              .ok (.closeParen none, r)
            else .error (.invalid r)
        | _ => .error (.invalid r)
      else if c = '#' then do
        let (text, rest) ← plainName coding r
        match rest with
        | [] => return (.hashName text, rest)
        | _ =>
            let (d, _) ← next rest
            if isSpace d || d = ')' || d = '>' || d = '%' || d = '|' then
              return (.hashName text, rest)
            else throw (.invalid rest)
      else if isNameStart coding c then nameTokenTail coding .plain [c] r
      else if isNameChar coding c || c = ':' then nameTokenTail coding .token [c] r
      else .error (.invalid s)
  | s => do
      let _ ← next s
      throw .ended

-- ============================================================ grammar

/-- How a group of element names goes on: nothing was said yet, or all
its parts are sequenced, or all are choices. -/
inductive Connector where
  | open
  | sequence
  | choice
deriving DecidableEq

/-- A place in the grammar of the prolog. -/
inductive Place where
  /-- At the very start, where a document declaration may stand. -/
  | start
  /-- Before the document type declaration. -/
  | misc
  /-- After the document type declaration. -/
  | afterDoctype
  | doctypeName
  | doctypeBody
  | doctypePublicId
  | doctypeSystemId
  | doctypeSubset
  | doctypeClose
  /-- Between declarations. -/
  | subset
  | entityName
  | parameterName
  /-- After an entity's name; parameters have no name here. -/
  | entityBody (name : Option (List Char)) (parameter : Bool)
  | entityPublicId (name : Option (List Char)) (parameter : Bool)
  | entitySystemId (name : Option (List Char)) (parameter : Bool)
  | entityUnparsed (name : Option (List Char)) (parameter : Bool)
  | entityFormat (name : Option (List Char))
  | formatName
  | formatBody
  | formatPublicId
  | formatSystemId (optional : Bool)
  | attlistElement
  | attlistName (element : List Char)
  | attlistType (element attr : List Char)
  | enumValue (element attr : List Char) (names : Bool)
  | enumNext (element attr : List Char) (names : Bool)
  | formatOpen (element attr : List Char)
  | attlistDefault (element attr : List Char) (tokenized identifier : Bool)
  | attlistFixed (element attr : List Char) (tokenized identifier : Bool)
  | elementName
  | elementModel
  | groupStart
  | mixedNext
  | mixedName
  | mixedClose
  | groupItem (groups : List Connector)
  | groupNext (groups : List Connector)
  /-- Before the close of a declaration. -/
  | declEnd

/-- What has been read of a prolog. -/
structure Prolog where
  place : Place := .start
  dtd : Dtd := {}
  /-- Whether declarations still count. -/
  counting : Bool := true

/-- The prolog moved on to another place. -/
def Prolog.go (p : Prolog) (place : Place) : Prolog :=
  { p with place := place }

/-- Whether a character can stand in a public identifier. -/
def isPublicIdChar (c : Char) : Bool :=
  c.isAlphanum || c == ' ' || c == '\r' || c == '\n'
    || "-'()+,./:=?;!*#@$_%".toList.contains c

/-- Checks a public identifier, whose place ends with `after`. -/
def checkPublicId (value after : List Symbol) : Except Fault Unit :=
  match value with
  | [] => .ok ()
  | .char c :: r =>
      if isPublicIdChar c then checkPublicId r after
      else .error ⟨.illegalPublicId, .char c :: r ++ after⟩
  | s => .error ⟨.illegalPublicId, s ++ after⟩

/-- The attribute types that collapse white space, with whether they mark
an identifier. -/
def tokenizedTypes : List (String × Bool) :=
  [("ID", true), ("IDREF", false), ("IDREFS", false), ("ENTITY", false),
    ("ENTITIES", false), ("NMTOKEN", false), ("NMTOKENS", false)]

/-- A declared attribute's default put on record. -/
def Prolog.addDefault (p : Prolog) (start : List Symbol) (element attr : List Char)
    (tokenized identifier : Bool) (value : Option (List Symbol × List Symbol)) :
    Except Fault Prolog := do
  if !p.counting then return p.go (.attlistName element)
  let text ←
    match value with
    | none => pure none
    | some (symbols, after) =>
        match p.dtd.attributeText coding tokenized symbols after with
        | .ok text => pure (some text)
        | .error (cause, place) => throw ⟨cause, place.getD start⟩
  let rule : AttributeRule := ⟨element, attr, tokenized, text⟩
  return { p with place := .attlistName element, dtd := p.dtd.addRule rule identifier }

/-- The place after one part of a group has been closed. -/
def closeGroup : List Connector → Place
  | _ :: g :: groups => .groupNext (g :: groups)
  | _ => .declEnd

/-- The groups after a separator, unless the innermost one is already
joined the other way. -/
def joinGroup (connector : Connector) : List Connector → Option (List Connector)
  | [] => some []
  | g :: groups =>
      if g = .open || g = connector then some (connector :: groups) else none

/-- The place that a keyword after `<!` leads to. -/
def declPlace? (keyword : List Char) : Option Place :=
  match String.ofList keyword with
  | "ENTITY" => some .entityName
  | "ATTLIST" => some .attlistElement
  | "ELEMENT" => some .elementName
  | "NOTATION" => some .formatName
  | _ => none

/-- The prolog after one more token, which starts at `start`; nothing
when the grammar does not allow the token. -/
def Prolog.step? (p : Prolog) (start : List Symbol) (token : PrologToken) :
    Except Fault (Option Prolog) := do
  match p.place, token with
  | .start, .space => return some (p.go .misc)
  | _, .space => return some p
  | .start, .instruction | .start, .comment => return some (p.go .misc)
  | .misc, .instruction | .misc, .comment => return some p
  | .afterDoctype, .instruction | .afterDoctype, .comment => return some p
  | .subset, .instruction | .subset, .comment => return some p
  | .start, .declOpen keyword | .misc, .declOpen keyword =>
      return if keyword = "DOCTYPE".toList then some (p.go .doctypeName) else none
  -- the document type declaration
  | .doctypeName, .name _ _ => return some (p.go .doctypeBody)
  | .doctypeBody, .openBracket => return some (p.go .subset)
  | .doctypeBody, .declClose => return some (p.go .afterDoctype)
  | .doctypeBody, .name text false =>
      return if text = "SYSTEM".toList then some (p.go .doctypeSystemId)
        else if text = "PUBLIC".toList then some (p.go .doctypePublicId)
        else none
  | .doctypePublicId, .literal value after =>
      checkPublicId value after
      return some (p.go .doctypeSystemId)
  | .doctypeSystemId, .literal _ _ =>
      return some { p with
        place := .doctypeSubset
        dtd := { p.dtd with incomplete := true } }
  | .doctypeSubset, .openBracket => return some (p.go .subset)
  | .doctypeSubset, .declClose => return some (p.go .afterDoctype)
  | .doctypeClose, .declClose => return some (p.go .afterDoctype)
  | .subset, .declOpen keyword => return (declPlace? keyword).map p.go
  | .subset, .closeBracket => return some (p.go .doctypeClose)
  | .subset, .parameterReference =>
      return some { p with
        dtd := { p.dtd with incomplete := true }
        counting := p.dtd.standalone }
  -- entities
  | .entityName, .percent => return some (p.go .parameterName)
  | .entityName, .name text false =>
      let known := (predefinedEntity? text).isSome || (p.dtd.entity? text).isSome
      return some (p.go (.entityBody (if known || !p.counting then none else some text) false))
  | .parameterName, .name _ false => return some (p.go (.entityBody none true))
  | .entityBody name parameter, .name text false =>
      return if text = "SYSTEM".toList then some (p.go (.entitySystemId name parameter))
        else if text = "PUBLIC".toList then some (p.go (.entityPublicId name parameter))
        else none
  | .entityBody name _, .literal value after =>
      if !p.counting then return some (p.go .declEnd)
      let text ← entityText coding after (value.length + 1) value
      return some { p with
        place := .declEnd
        dtd := match name with
          | some n => p.dtd.addEntity n (.internal text)
          | none => p.dtd }
  | .entityPublicId name parameter, .literal value after =>
      checkPublicId value after
      return some (p.go (.entitySystemId name parameter))
  | .entitySystemId name parameter, .literal _ _ =>
      return some { p with
        place := .entityUnparsed name parameter
        dtd := match name with
          | some n => p.dtd.addEntity n .external
          | none => p.dtd }
  | .entityUnparsed _ _, .declClose => return some (p.go .subset)
  | .entityUnparsed name false, .name text false =>
      return if text = "NDATA".toList then some (p.go (.entityFormat name)) else none
  | .entityFormat name, .name _ false =>
      return some { p with
        place := .declEnd
        dtd := match name with
          | some n => p.dtd.markUnparsed n
          | none => p.dtd }
  -- data formats
  | .formatName, .name _ false => return some (p.go .formatBody)
  | .formatBody, .name text false =>
      return if text = "SYSTEM".toList then some (p.go (.formatSystemId false))
        else if text = "PUBLIC".toList then some (p.go .formatPublicId)
        else none
  | .formatPublicId, .literal value after =>
      checkPublicId value after
      return some (p.go (.formatSystemId true))
  | .formatSystemId _, .literal _ _ => return some (p.go .declEnd)
  | .formatSystemId true, .declClose => return some (p.go .subset)
  -- attributes
  | .attlistElement, .name text _ => return some (p.go (.attlistName text))
  | .attlistName _, .declClose => return some (p.go .subset)
  | .attlistName element, .name text _ => return some (p.go (.attlistType element text))
  | .attlistType element attr, .name text false =>
      if text = "CDATA".toList then
        return some (p.go (.attlistDefault element attr false false))
      else if text = "NOTATION".toList then
        return some (p.go (.formatOpen element attr))
      else
        return (tokenizedTypes.lookup (String.ofList text)).map fun identifier =>
          p.go (.attlistDefault element attr true identifier)
  | .attlistType element attr, .openParen => return some (p.go (.enumValue element attr false))
  | .formatOpen element attr, .openParen => return some (p.go (.enumValue element attr true))
  | .enumValue element attr names, .name _ false =>
      return some (p.go (.enumNext element attr names))
  | .enumValue element attr false, .name _ true
  | .enumValue element attr false, .nameToken =>
      return some (p.go (.enumNext element attr false))
  | .enumNext element attr names, .bar => return some (p.go (.enumValue element attr names))
  | .enumNext element attr _, .closeParen none =>
      return some (p.go (.attlistDefault element attr true false))
  | .attlistDefault element attr tokenized identifier, .hashName text =>
      if text = "IMPLIED".toList || text = "REQUIRED".toList then
        return some (← p.addDefault coding start element attr tokenized identifier none)
      else if text = "FIXED".toList then
        return some (p.go (.attlistFixed element attr tokenized identifier))
      else return none
  | .attlistDefault element attr tokenized identifier, .literal value after
  | .attlistFixed element attr tokenized identifier, .literal value after =>
      let given := some (value, after)
      return some (← p.addDefault coding start element attr tokenized identifier given)
  -- elements
  | .elementName, .name _ _ => return some (p.go .elementModel)
  | .elementModel, .name text false =>
      return if text = "EMPTY".toList || text = "ANY".toList then some (p.go .declEnd) else none
  | .elementModel, .openParen => return some (p.go .groupStart)
  | .groupStart, .hashName text =>
      return if text = "PCDATA".toList then some (p.go .mixedNext) else none
  | .groupStart, .openParen => return some (p.go (.groupItem [.open, .open]))
  | .groupStart, .name _ _ | .groupStart, .nameRepeated =>
      return some (p.go (.groupNext [.open]))
  | .mixedNext, .closeParen none | .mixedNext, .closeParen (some '*') =>
      return some (p.go .declEnd)
  | .mixedNext, .bar => return some (p.go .mixedName)
  | .mixedName, .name _ _ => return some (p.go .mixedClose)
  | .mixedClose, .closeParen (some '*') => return some (p.go .declEnd)
  | .mixedClose, .bar => return some (p.go .mixedName)
  | .groupItem groups, .openParen => return some (p.go (.groupItem (.open :: groups)))
  | .groupItem groups, .name _ _ | .groupItem groups, .nameRepeated =>
      return some (p.go (.groupNext groups))
  | .groupNext groups, .closeParen _ => return some (p.go (closeGroup groups))
  | .groupNext groups, .comma => return (joinGroup .sequence groups).map (p.go <| .groupItem ·)
  | .groupNext groups, .bar => return (joinGroup .choice groups).map (p.go <| .groupItem ·)
  | .declEnd, .declClose => return some (p.go .subset)
  | _, _ => return none

/-- The fault of a token where the grammar does not allow it. -/
def misplaced : PrologToken → Cause
  | .parameterReference => .illegalParameterReference
  | .declaration => .misplacedDeclaration
  | _ => .syntaxError

/-- Whether the first element may start. -/
def Prolog.mayStart (p : Prolog) : Bool :=
  match p.place with
  | .start | .misc | .afterDoctype => true
  | _ => false

/-- Reads a prolog, no longer than `fuel`: the declarations, and the
document from the first element on. -/
def Prolog.read (fuel : Nat) (p : Prolog) (s : List Symbol) :
    Except Fault (Dtd × List Symbol) :=
  match fuel, s with
  | _, [] => .error ⟨.noElement, []⟩
  | 0, s => .error ⟨.noElement, s⟩
  | fuel + 1, s => do
      let (token, rest) ← (prologToken coding s).mapError (Stop.toFault s)
      match token with
      | .instanceStart =>
          if p.mayStart then return (p.dtd, s) else throw ⟨.syntaxError, s⟩
      | _ =>
          match ← p.step? coding s token with
          | some p => Prolog.read fuel p rest
          | none => throw ⟨misplaced token, s⟩

/-- Checks that only comments and processing instructions follow the
root element. -/
def checkEpilog (fuel : Nat) (s : List Symbol) : Except Fault Unit :=
  match fuel, s with
  | _, [] => .ok ()
  | 0, _ => .ok ()
  | fuel + 1, s => do
      let (token, rest) ← (prologToken coding s).mapError (Stop.toFault s)
      match token with
      | .space | .comment | .instruction => checkEpilog fuel rest
      | _ => throw ⟨.junkAfterRoot, s⟩

end KbDocs.Xml
