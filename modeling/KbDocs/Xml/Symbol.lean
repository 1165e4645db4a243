/-
The characters of an XML document. Bytes are turned into symbols before
anything is read: a symbol is a character that XML admits, or a mark for
bytes that are none. Faulty bytes are kept as symbols and not rejected
at once, because a fault that stands before them in the document is
reported first.
-/
import KbDocs.Text.CodePage

namespace KbDocs.Xml

/-- One unit of a document. -/
inductive Symbol where
  /-- A character that XML admits. -/
  | char (c : Char)
  /-- Bytes that encode no character, or one that XML forbids. -/
  | malformed
  /-- A byte that begins a character of several bytes, where the bytes
  after it make none that XML admits. -/
  | broken
  /-- The first bytes of a character that the document ends within. -/
  | cutOff
  /-- A single byte left over where characters take two. -/
  | oddByte
deriving DecidableEq

/-- How the bytes of a document encode characters. -/
inductive Encoding where
  | utf8
  | utf16 (bigEndian : Bool)
  | latin1
  | ascii
  /-- A code page, by its upper half. -/
  | page (upper : List Char)
deriving DecidableEq

/-- Whether XML admits a code point as a character. -/
def isXmlChar (n : Nat) : Bool :=
  (32 ≤ n || n == 9 || n == 10 || n == 13) && n != 0xFFFE && n != 0xFFFF
    && !(0xD800 ≤ n && n < 0xE000) && n < 0x110000

/-- The symbol of a code point. -/
def Symbol.ofCode (n : Nat) : Symbol :=
  if isXmlChar n then .char (Char.ofNat n) else .malformed

/-- How many bytes a character takes in UTF-8, by its first byte; zero
for a byte that starts none. -/
def utf8Width (b : UInt8) : Nat :=
  if b < 0x80 then 1
  else if b < 0xC0 then 0
  else if b < 0xE0 then 2
  else if b < 0xF0 then 3
  else if b < 0xF5 then 4
  else 0

/-- Whether a byte continues a character in UTF-8. -/
def isContinuation (b : UInt8) : Bool :=
  0x80 ≤ b && b < 0xC0

/-- The code point that the bytes of one character encode in UTF-8: the
shortest form only, and no surrogate. -/
def utf8Code? : List UInt8 → Option Nat
  | [a] => some a.toNat
  | [a, b] =>
      if isContinuation b && 0xC2 ≤ a then
        some ((a.toNat % 32) * 64 + b.toNat % 64)
      else none
  | [a, b, c] =>
      let n := (a.toNat % 16) * 4096 + (b.toNat % 64) * 64 + c.toNat % 64
      if isContinuation b && isContinuation c && 0x800 ≤ n
          && !(0xD800 ≤ n && n < 0xE000) then some n
      else none
  | [a, b, c, d] =>
      let n := (a.toNat % 8) * 262144 + (b.toNat % 64) * 4096
        + (c.toNat % 64) * 64 + d.toNat % 64
      if isContinuation b && isContinuation c && isContinuation d
          && 0x10000 ≤ n && n < 0x110000 then some n
      else none
  | _ => none

/-- The symbols of a document in UTF-8. After malformed bytes reading
goes on with the next byte. -/
def symbolsUtf8 (bytes : List UInt8) : List Symbol :=
  match bytes with
  | [] => []
  | b :: rest =>
      let width := utf8Width b
      let tail := rest.take (width - 1)
      if width = 0 then .malformed :: symbolsUtf8 rest
      else if tail.length < width - 1 then [.cutOff]
      else
        match utf8Code? (b :: tail) with
        | none => .broken :: symbolsUtf8 rest
        | some n =>
            let symbol := if width = 1 || isXmlChar n then .ofCode n else .broken
            symbol :: symbolsUtf8 (rest.drop (width - 1))
termination_by bytes.length
decreasing_by all_goals (simp only [List.length_cons, List.length_drop]; omega)

/-- The symbols of a document in UTF-16. A pair of units starting with a
high surrogate makes one character whatever the second unit is. -/
def symbolsUtf16 (bigEndian : Bool) : List UInt8 → List Symbol
  | [] => []
  | [_] => [.oddByte]
  | a :: b :: rest =>
      let unit (a b : UInt8) : Nat :=
        if bigEndian then a.toNat * 256 + b.toNat else b.toNat * 256 + a.toNat
      let n := unit a b
      if 0xD800 ≤ n && n < 0xDC00 then
        match rest with
        | c :: d :: rest =>
            .ofCode (0x10000 + (n % 1024) * 1024 + unit c d % 1024)
              :: symbolsUtf16 bigEndian rest
        | _ => [.cutOff]
      else .ofCode n :: symbolsUtf16 bigEndian rest

/-- The symbol of a byte in a code page. -/
def pageSymbol (upper : List Char) (b : UInt8) : Symbol :=
  if b < 128 then .ofCode b.toNat
  else
    match upper[b.toNat - 128]? with
    | none => .malformed
    | some c => if c = '\uFFFD' then .malformed else .ofCode c.toNat

/-- The symbols of a document in a known encoding. -/
def Encoding.symbols (encoding : Encoding) (bytes : List UInt8) : List Symbol :=
  match encoding with
  | .utf8 => symbolsUtf8 bytes
  | .utf16 bigEndian => symbolsUtf16 bigEndian bytes
  | .latin1 => bytes.map fun b => .ofCode b.toNat
  | .ascii => bytes.map fun b => if b < 128 then .ofCode b.toNat else .malformed
  | .page upper => bytes.map (pageSymbol upper)

/-- The encoding that the first bytes of a document show, and how many
bytes of them are a byte order mark. Nothing is said when the document
is a single byte that could still start several of them. -/
def detectEncoding? : List UInt8 → Option (Encoding × Nat)
  | [] => some (.utf8, 0)
  | [b] => if b ∈ [0x00, 0x3C, 0xEF, 0xFE, 0xFF] then none else some (.utf8, 0)
  | a :: b :: rest =>
      if a = 0xFE && b = 0xFF then some (.utf16 true, 2)
      else if a = 0xFF && b = 0xFE then some (.utf16 false, 2)
      else if a = 0xEF && b = 0xBB then
        match rest with
        | [] => none
        | c :: _ => some (.utf8, if c = 0xBF then 3 else 0)
      else if a = 0 then some (.utf16 true, 0)
      else if b = 0 then some (.utf16 false, 0)
      else some (.utf8, 0)

/-- How many bytes the smallest character takes. -/
def Encoding.unitBytes : Encoding → Nat
  | .utf16 _ => 2
  | _ => 1

end KbDocs.Xml
