/-
The tokens of a text. Brackets, dashes, question marks and colons are
tokens by themselves; blocks, which are written by indentation alone,
get tokens for their start and their end.

A key need not be marked: whatever stands before a colon on the same
line is one. So each place where a key might start is remembered
(`PendingKey`), and a colon puts the mark of the key, and of a block
mapping if it is the first, back in front of it.
-/
import KbDocs.Yaml.Scalar

namespace KbDocs.Yaml

/-- A token. -/
inductive Token where
  /-- A version directive, by its major version. -/
  | version (major : Nat)
  /-- A directive that gives a tag handle a meaning. -/
  | handle (handle meaning : String)
  /-- Any other directive. -/
  | reserved
  | documentStart
  | documentEnd
  | sequenceOpen
  | sequenceClose
  | mappingOpen
  | mappingClose
  | comma
  | blockSequence
  | blockMapping
  | blockEnd
  | item
  | key
  | value
  | alias (name : String)
  | anchor (name : String)
  | tag (handle : Option String) (suffix : String)
  | scalar (text : String) (isPlain : Bool)
deriving DecidableEq

-- =============================================== tags and directives

/-- Whether a character may stand in a tag. -/
def isTagChar (c : Char) : Bool :=
  c.isAlphanum || "-;/?:@&=+$,_.!~*'()[]".toList.contains c

/-- Bytes written as a percent sign and two digits each. -/
def escapedBytes : Nat → Scan (List UInt8)
  | 0 => return []
  | bound + 1 => do
      if (← peek) == some '%' then
        skip
        let byte ← hexNumber 2
        return byte.toUInt8 :: (← escapedBytes bound)
      else return []

/-- The text that bytes encode in UTF-8, if they do. -/
def utf8Text? (bytes : List UInt8) : Option (List Char) :=
  (String.fromUTF8? ⟨bytes.toArray⟩).map String.toList

/-- The characters of a tag, possibly none. -/
def tagChars : Nat → Scan (List Char)
  | 0 => return []
  | bound + 1 => do
      match ← peek with
      | some c =>
          if isTagChar c then
            skip
            return c :: (← tagChars bound)
          else if c == '%' then
            let bytes ← escapedBytes (← get).rest.length
            let found ← utf8Text? bytes
            return found ++ (← tagChars bound)
          else return []
      | none => return []

/-- The text of a tag, which is not empty. -/
def tagText : Scan String := do
  let before := (← get).index
  let found ← tagChars (← get).rest.length
  require (before < (← get).index)
  return String.ofList found

/-- A tag handle: an exclamation mark, or a name between two. -/
def tagHandle : Scan String := do
  require ((← peek) == some '!')
  skip
  if (← peek) == some ' ' then return "!"
  let found ← takeWhile isNameChar
  require ((← peek) == some '!')
  skip
  return String.ofList ('!' :: found ++ ['!'])

/-- A tag, from its exclamation mark on: in full between angle brackets,
a single mark, or a handle and the text behind it. -/
def tag : Scan Token := do
  let following ← peekAt 1
  let found ←
    if following == some '<' then do
      skipMany 2
      let suffix ← tagText
      require ((← peek) == some '>')
      skip
      pure (Token.tag none suffix)
    else if endsIndicator following then do
      skip
      pure (Token.tag none "!")
    else do
      let ahead := ((← get).rest.drop 1).takeWhile fun c => !endsWord (some c)
      let handle ← if ahead.contains '!' then tagHandle else do skip; pure "!"
      pure (Token.tag (some handle) (← tagText))
  require (endsWord (← peek))
  return found

/-- A number in decimal digits. -/
def number : Scan Nat := do
  let digits ← takeWhile Char.isDigit
  require !digits.isEmpty
  return digits.foldl (fun n c => n * 10 + (c.toNat - 48)) 0

/-- A directive line, from its percent sign on. -/
def directive : Scan Token := do
  skip
  let name ← word
  require (endsWord (← peek))
  let found ←
    if name == "YAML".toList then do
      skipSpaces
      let major ← number
      require ((← peek) == some '.')
      skip
      let _ ← number
      require (endsWord (← peek))
      pure (Token.version major)
    else if name == "TAG".toList then do
      skipSpaces
      let handle ← tagHandle
      require ((← peek) == some ' ')
      skipSpaces
      let meaning ← tagText
      require (endsWord (← peek))
      pure (Token.handle handle meaning)
    else do
      skipLine
      pure Token.reserved
  skipLineEnd
  return found

/-- The name of an anchor or an alias, from its indicator on. -/
def anchorName : Scan String := do
  skip
  let found ← word
  let following ← peek
  require (endsIndicator following || following.any "?:,]\x7d%@`".toList.contains)
  return String.ofList found

-- ================================================================ keys

/-- A place where a key may have started. -/
structure PendingKey where
  /-- How many tokens come before it. -/
  position : Nat
  /-- Whether the text makes no sense unless a colon follows. -/
  required : Bool
  start : Cursor

/-- How far a text has been read. -/
structure Lexer where
  cursor : Cursor
  tokens : List Token := []
  /-- Where the contents of the innermost block start at the earliest,
  one past its column; zero outside of all blocks. -/
  depth : Nat := 0
  /-- The same for the blocks around it. -/
  outerDepths : List Nat := []
  /-- Whether a key may start here. -/
  keyAllowed : Bool := true
  /-- The key that may have started inside the current brackets. -/
  pending : Option PendingKey := none
  /-- The same outside of each pair of brackets that is open. -/
  outerPending : List (Option PendingKey) := []

namespace Lexer

/-- Whether brackets are open. -/
def inFlow (l : Lexer) : Bool :=
  !l.outerPending.isEmpty

/-- Runs a step of reading. -/
def scan {α : Type} (l : Lexer) (step : Scan α) : Option (α × Lexer) :=
  (step.run l.cursor).map fun (a, cursor) => (a, { l with cursor })

/-- One more token. -/
def emit (l : Lexer) (t : Token) : Lexer :=
  { l with tokens := l.tokens ++ [t] }

/-- One more token, written in a number of characters. -/
def emitOver (l : Lexer) (width : Nat) (t : Token) : Lexer :=
  { l.emit t with cursor := width.repeat Cursor.next l.cursor }

/-- Whether the cursor has left the place of a key: keys stand on one
line and are not longer than 1024 characters. -/
def expired (l : Lexer) (k : PendingKey) : Bool :=
  k.start.line != l.cursor.line || 1024 < l.cursor.index - k.start.index

/-- A pending key given up, which fails if it was required. -/
def giveUp : Option PendingKey → Option (Option PendingKey)
  | some k => if k.required then none else some none
  | none => some none

/-- Gives up the keys whose place was left. -/
def dropExpired (l : Lexer) : Option Lexer := do
  let check (k : Option PendingKey) : Option (Option PendingKey) :=
    if k.any l.expired then giveUp k else some k
  let pending ← check l.pending
  let outerPending ← l.outerPending.mapM check
  return { l with pending, outerPending }

/-- Gives up the key that may have started inside the current
brackets. -/
def dropPending (l : Lexer) : Option Lexer := do
  let pending ← giveUp l.pending
  return { l with pending }

/-- Remembers that a key may start here, if one may. -/
def notePending (l : Lexer) : Option Lexer := do
  if !l.keyAllowed then return l
  let l ← l.dropPending
  let required := !l.inFlow && l.depth == l.cursor.column + 1
  return { l with pending := some ⟨l.tokens.length, required, l.cursor⟩ }

-- ============================================================== blocks

/-- Ends the blocks that reach past a depth, going through those that
are open. -/
def unwindThrough (l : Lexer) (depth : Nat) : List Nat → Lexer
  | [] => l
  | outer :: outers =>
      if depth < l.depth then
        unwindThrough { l.emit .blockEnd with depth := outer, outerDepths := outers }
          depth outers
      else l

/-- Ends the blocks that reach past a depth. Inside brackets,
indentation means nothing. -/
def unwind (l : Lexer) (depth : Nat) : Lexer :=
  if l.inFlow then l else l.unwindThrough depth l.outerDepths

/-- Starts a block at a column unless it goes on there, and puts its
token at a position. -/
def indent (l : Lexer) (column position : Nat) (t : Token) : Lexer :=
  if l.depth < column + 1 then
    { l with
      depth := column + 1
      outerDepths := l.depth :: l.outerDepths
      tokens := l.tokens.insertIdx position t }
  else l

/-- Starts a block here for an indicator of an item, a key or a value.
Inside brackets there is no block to start. -/
def openBlock (l : Lexer) (t : Token) : Option Lexer :=
  if l.inFlow then some l
  else if l.keyAllowed then
    some (l.indent l.cursor.column l.tokens.length t)
  else none

-- ======================================================= single tokens

/-- Reads to the start of the next token, over spaces, comments and line
ends. A key may start on a new line, outside of brackets. -/
def skipGaps : Nat → Lexer → Option Lexer
  | 0, l => some l
  | bound + 1, l => do
      let (found, l) ← l.scan do skipSpaces; skipComment; lineBreak
      if found.isEmpty then return l
      skipGaps bound { l with keyAllowed := l.keyAllowed || !l.inFlow }

/-- A document mark or a directive, before which all blocks end. -/
def documentToken (l : Lexer) (step : Scan Token) : Option Lexer := do
  let l ← (l.unwind 0).dropPending
  let (t, l) ← { l with keyAllowed := false }.scan step
  return l.emit t

/-- An opening bracket. -/
def openFlow (l : Lexer) (t : Token) : Option Lexer := do
  let l ← l.notePending
  return { l.emitOver 1 t with
    keyAllowed := true
    pending := none
    outerPending := l.pending :: l.outerPending }

/-- A closing bracket; there must be brackets to close. -/
def closeFlow (l : Lexer) (t : Token) : Option Lexer := do
  match l.outerPending with
  | [] => none
  | pending :: outerPending =>
      return { l.emitOver 1 t with keyAllowed := false, pending, outerPending }

/-- A comma. -/
def comma (l : Lexer) : Option Lexer := do
  let l ← l.dropPending
  return { l.emitOver 1 .comma with keyAllowed := true }

/-- The dash of an item. -/
def item (l : Lexer) : Option Lexer := do
  let l ← (← l.openBlock .blockSequence).dropPending
  return { l.emitOver 1 .item with keyAllowed := true }

/-- The question mark of a key. -/
def key (l : Lexer) : Option Lexer := do
  let l ← (← l.openBlock .blockMapping).dropPending
  return { l.emitOver 1 .key with keyAllowed := !l.inFlow }

/-- The colon of a value: it makes a key of what stands before it on the
line, or stands for itself. -/
def value (l : Lexer) : Option Lexer := do
  match l.pending with
  | some k =>
      let l := { l with tokens := l.tokens.insertIdx k.position .key }
      let l := if l.inFlow then l else l.indent k.start.column k.position .blockMapping
      return { l.emitOver 1 .value with pending := none, keyAllowed := false }
  | none =>
      let l ← l.openBlock .blockMapping
      return { l.emitOver 1 .value with keyAllowed := !l.inFlow }

/-- A token that may start a key. -/
def content (l : Lexer) (step : Scan Token) : Option Lexer := do
  let l ← l.notePending
  let (t, l) ← { l with keyAllowed := false }.scan step
  return l.emit t

/-- A plain text; on a new line behind it a key may start. -/
def plainText (l : Lexer) : Option Lexer := do
  let l ← l.notePending
  let ((text, broken), l) ← l.scan (plain l.inFlow l.depth)
  return { l.emit (.scalar (String.ofList text) true) with keyAllowed := broken }

/-- A block text; behind it a key may start. -/
def blockText (l : Lexer) (fold : Bool) : Option Lexer := do
  let l ← l.dropPending
  let (text, l) ← l.scan (block fold l.depth)
  return { l.emit (.scalar (String.ofList text) false) with keyAllowed := true }

/-- A quoted text as a token. -/
def quotedToken (quote : Char) : Scan Token := do
  return .scalar (String.ofList (← quoted quote)) false

/-- Whether a plain text may start with a character, given what follows
it. -/
def startsPlain (inFlow : Bool) (c : Char) (following : Option Char) : Bool :=
  !(endsIndicator (some c) || "-?:,[]\x7b\x7d#&*!|>'\"%@`".toList.contains c)
    || (!endsIndicator following
      && (c == '-' || (!inFlow && (c == '?' || c == ':'))))

/-- Reads the token that starts with a character. -/
def token (l : Lexer) (c : Char) : Option Lexer :=
  let following := l.cursor.rest[1]?
  let alone := endsIndicator following
  let atMargin := l.cursor.column == 0
  if c == '%' && atMargin then l.documentToken directive
  else if atMargin && l.cursor.atDocumentMark startMark then
    l.documentToken do skipMany 3; return .documentStart
  else if atMargin && l.cursor.atDocumentMark endMark then
    l.documentToken do skipMany 3; return .documentEnd
  else if c == '[' then l.openFlow .sequenceOpen
  else if c == '{' then l.openFlow .mappingOpen
  else if c == ']' then l.closeFlow .sequenceClose
  else if c == '}' then l.closeFlow .mappingClose
  else if c == ',' then l.comma
  else if c == '-' && alone then l.item
  else if c == '?' && (l.inFlow || alone) then l.key
  else if c == ':' && (l.inFlow || alone) then l.value
  else if c == '*' then l.content do return .alias (← anchorName)
  else if c == '&' then l.content do return .anchor (← anchorName)
  else if c == '!' then l.content tag
  else if c == '|' && !l.inFlow then l.blockText false
  else if c == '>' && !l.inFlow then l.blockText true
  else if c == '\x27' || c == '"' then l.content (quotedToken c)
  else if startsPlain l.inFlow c following then l.plainText
  else none

/-- The tokens of the rest of a text. -/
def run : Nat → Lexer → Option (List Token)
  | 0, _ => none
  | bound + 1, l => do
      let l ← (← l.skipGaps (l.cursor.rest.length + 1)).dropExpired
      let l := l.unwind (l.cursor.column + 1)
      match l.cursor.rest with
      | [] =>
          let l ← (l.unwind 0).dropPending
          return l.tokens
      | c :: _ => run bound (← l.token c)

end Lexer

/-- The tokens of a text. A byte order mark may stand before it. -/
def tokens? (text : List Char) : Option (List Token) :=
  let start : Cursor := ⟨text, 0, 0, 0⟩
  let start := if text.head? == some byteOrderMark then start.next else start
  Lexer.run (text.length + 2) { cursor := start }

end KbDocs.Yaml
