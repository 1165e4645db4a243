/-
Faults of XML documents: what is wrong and where. A reader names the
place of a fault by the part of the document that begins there; line and
column follow from how much of the document lies before it. Lines count
from one, columns from zero, and a carriage return with the line feed
after it ends one line.
-/
import KbDocs.Xml.Symbol

namespace KbDocs.Xml

/-- What can be wrong with a document. -/
inductive Cause where
  | syntaxError
  | noElement
  | invalidToken
  | unclosedToken
  | partialCharacter
  | mismatchedTag
  | duplicateAttribute
  | junkAfterRoot
  | illegalParameterReference
  | undefinedEntity
  | recursiveEntity
  | asynchronousEntity
  | badCharacterNumber
  | binaryEntity
  | externalEntityInAttribute
  | misplacedDeclaration
  | unknownEncoding
  | incorrectEncoding
  | unclosedCdata
  | malformedDeclaration
  | illegalPublicId
  | unboundPrefix
  | undeclaredPrefix
  | reservedXmlPrefix
  | reservedXmlnsPrefix
  | reservedNamespace
  /-- Entities stand for too much text. -/
  | amplificationLimit
  /-- A reference that could only be resolved by reading further files,
  with its text. -/
  | unresolvedReference (text : String)
deriving DecidableEq

/-- The wording of a cause. -/
def Cause.message : Cause → String
  | syntaxError => "syntax error"
  | noElement => "no element found"
  | invalidToken => "not well-formed (invalid token)"
  | unclosedToken => "unclosed token"
  | partialCharacter => "partial character"
  | mismatchedTag => "mismatched tag"
  | duplicateAttribute => "duplicate attribute"
  | junkAfterRoot => "junk after document element"
  | illegalParameterReference => "illegal parameter entity reference"
  | undefinedEntity => "undefined entity"
  | recursiveEntity => "recursive entity reference"
  | asynchronousEntity => "asynchronous entity"
  | badCharacterNumber => "reference to invalid character number"
  | binaryEntity => "reference to binary entity"
  | externalEntityInAttribute => "reference to external entity in attribute"
  | misplacedDeclaration => "XML or text declaration not at start of entity"
  | unknownEncoding => "unknown encoding"
  | incorrectEncoding => "encoding specified in XML declaration is incorrect"
  | unclosedCdata => "unclosed CDATA section"
  | malformedDeclaration => "XML declaration not well-formed"
  | illegalPublicId => "illegal character(s) in public id"
  | unboundPrefix => "unbound prefix"
  | undeclaredPrefix => "must not undeclare prefix"
  | reservedXmlPrefix =>
      "reserved prefix (xml) must not be undeclared or bound to another namespace name"
  | reservedXmlnsPrefix => "reserved prefix (xmlns) must not be declared or undeclared"
  | reservedNamespace => "prefix must not be bound to one of the reserved namespace names"
  | amplificationLimit =>
      "limit on input amplification factor (from DTD and entities) breached"
  | unresolvedReference text => "undefined entity " ++ text

/-- A fault, placed by the part of the document that begins at it. -/
structure Fault where
  cause : Cause
  rest : List Symbol

/-- The line and the column reached after some symbols, from a given line
and column on. -/
def advance (line column : Nat) : List Symbol → Nat × Nat
  | [] => (line, column)
  | .char '\r' :: .char '\n' :: r => advance (line + 1) 0 r
  | .char '\r' :: r => advance (line + 1) 0 r
  | .char '\n' :: r => advance (line + 1) 0 r
  | _ :: r => advance line (column + 1) r

/-- Why a document could not be read. -/
inductive ParseError where
  /-- A fault with its line and column. -/
  | fault (cause : Cause) (line column : Nat)
  /-- The declared encoding is not known. -/
  | unknownEncoding (name : String)
  /-- The declared encoding takes several bytes a character. -/
  | multiByteEncoding
deriving DecidableEq

/-- The wording of an error. -/
def ParseError.message : ParseError → String
  | fault cause line column =>
      cause.message ++ s!": line {line}, column {column}"
  | unknownEncoding name => "unknown encoding: " ++ name
  | multiByteEncoding => "multi-byte encodings are not supported"

/-- A fault with its place in a document counted out. -/
def Fault.locate (f : Fault) (document : List Symbol) : ParseError :=
  let (line, column) := advance 1 0 (document.take (document.length - f.rest.length))
  .fault f.cause line column

-- ==================================================== stops in a token

/-- Why a token could not be completed. -/
inductive Stop where
  /-- What follows cannot stand there. -/
  | invalid (rest : List Symbol)
  /-- The document ends first. -/
  | ended
  /-- The document ends within a character. -/
  | cut

/-- The fault of a token that starts at `start`: an unsuitable symbol is
a fault where it stands, an end is one where the token starts. -/
def Stop.toFault (start : List Symbol) : Stop → Fault
  | invalid rest => ⟨.invalidToken, rest⟩
  | ended => ⟨.unclosedToken, start⟩
  | cut => ⟨.partialCharacter, start⟩

/-- The next character of a document and what follows it. -/
def next : List Symbol → Except Stop (Char × List Symbol)
  | [] => .error .ended
  | .char c :: r => .ok (c, r)
  | .malformed :: r => .error (.invalid (.malformed :: r))
  | .broken :: r => .error (.invalid (.broken :: r))
  | .cutOff :: _ => .error .cut
  | .oddByte :: _ => .error .ended

/-- The next character where only a mark of the markup may stand. There
a character that the document ends within is as unsuitable as any other
that is no mark. -/
def nextMark : List Symbol → Except Stop (Char × List Symbol)
  | .cutOff :: r => .error (.invalid (.cutOff :: r))
  | s => next s

end KbDocs.Xml
