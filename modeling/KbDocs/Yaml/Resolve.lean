/-
What an untagged plain text means. The form of the text decides: words
for nothing and for yes and no, numbers in four bases and in sixties,
decimal fractions, dates. A text of no such form is itself. A pattern
that looks at a whole text does not mind one line feed behind it.
-/
import KbDocs.Yaml.Timestamp

namespace KbDocs.Yaml

/-- The meaning of a node. -/
inductive Tag where
  | null
  | bool
  | int
  | float
  | binary
  | timestamp
  | text
  | list
  | map
  /-- Pairs in order, as a list. -/
  | pairs
  | set
  /-- The key that takes in the entries of other mappings. -/
  | merge
  /-- The key of a mapping's own value. -/
  | value
  /-- A tag that has no meaning here. -/
  | unknown
deriving DecidableEq

/-- What the tags of the format itself begin with. -/
def tagDomain : String :=
  "tag:yaml.org,2002:"

/-- The tags of the format, by name. -/
def namedTags : List (String × Tag) :=
  [("null", .null), ("bool", .bool), ("int", .int), ("float", .float),
    ("binary", .binary), ("timestamp", .timestamp), ("str", .text),
    ("seq", .list), ("map", .map), ("omap", .pairs), ("pairs", .pairs),
    ("set", .set), ("merge", .merge), ("value", .value)]

/-- The meaning of a tag that is written out. -/
def Tag.ofName (name : String) : Tag :=
  ((namedTags.find? fun (n, _) => tagDomain ++ n == name).map (·.2)).getD .unknown

-- ============================================================ patterns

/-- The text behind a sign, if it has one. -/
def unsigned : List Char → List Char
  | '-' :: r => r
  | '+' :: r => r
  | s => s

/-- Whether a character may stand between the digits of a number. -/
def isDigitOrGap (c : Char) : Bool :=
  c.isDigit || c == '_'

/-- The parts of a number in sixties behind its first: a colon and one or
two digits each, of which the first is less than six if there are two.
Gives what follows them, if there is at least one. -/
def sixties? : List Char → Option (List Char)
  | ':' :: a :: b :: r =>
      if '0' ≤ a && a ≤ '5' && b.isDigit then some ((sixties? r).getD r)
      else if a.isDigit then some ((sixties? (b :: r)).getD (b :: r))
      else none
  | [':', a] => if a.isDigit then some [] else none
  | _ => none

/-- Whether a text is a whole number: binary, octal, decimal,
hexadecimal or in sixties. -/
def isInt (s : List Char) : Bool :=
  match unsigned s with
  | '0' :: 'b' :: r =>
      !r.isEmpty && r.all fun c => c == '0' || c == '1' || c == '_'
  | '0' :: 'x' :: r =>
      !r.isEmpty && r.all fun c =>
        isDigitOrGap c || ('a' ≤ c && c ≤ 'f') || ('A' ≤ c && c ≤ 'F')
  | '0' :: r => r.all fun c => ('0' ≤ c && c ≤ '7') || c == '_'
  | c :: r =>
      let rest := r.dropWhile isDigitOrGap
      c.isDigit && (rest.isEmpty || sixties? rest == some [])
  | [] => false

/-- Whether a text is the exponent of a number, or nothing. The exponent
has a sign. -/
def isExponent : List Char → Bool
  | [] => true
  | e :: sign :: r =>
      (e == 'e' || e == 'E') && (sign == '-' || sign == '+')
        && !r.isEmpty && r.all Char.isDigit
  | _ => false

/-- Whether a text is a fraction behind its point. -/
def isFraction (s : List Char) : Bool :=
  isExponent (s.dropWhile isDigitOrGap)

/-- Whether a text is a number with a point, or one of the words for
numbers that are none. -/
def isFloat (s : List Char) : Bool :=
  let t := unsigned s
  let fixed := match t.dropWhile isDigitOrGap with
    | '.' :: r => isFraction r
    | rest =>
        match sixties? rest with
        | some ('.' :: r) => r.all isDigitOrGap
        | _ => false
  (t.head?.any Char.isDigit && fixed)
    || (match s with
      | '.' :: c :: r => c.isDigit && isFraction r
      | _ => false)
    || [".inf", ".Inf", ".INF"].any (·.toList == t)
    || [".nan", ".NaN", ".NAN"].any (·.toList == s)

/-- The words for yes and no, in the spellings that count. -/
def boolWords : List String :=
  ["yes", "Yes", "YES", "no", "No", "NO", "true", "True", "TRUE", "false",
    "False", "FALSE", "on", "On", "ON", "off", "Off", "OFF"]

/-- The spellings of nothing. -/
def nullWords : List String :=
  ["~", "null", "Null", "NULL", ""]

/-- A text without the line feed at its end, if it ends in one and has
more than that. -/
def withoutLastBreak (s : List Char) : List Char :=
  match s.getLast? with
  | some '\n' => if s.length == 1 then s else s.dropLast
  | _ => s

/-- The meaning of an untagged plain text. The marks of anchors, aliases
and tags are reserved, so that they mean nothing alone. -/
def Tag.ofPlain (text : String) : Tag :=
  let s := withoutLastBreak text.toList
  let t := String.ofList s
  if boolWords.contains t then .bool
  else if isFloat s then .float
  else if isInt s then .int
  else if t == "<<" then .merge
  else if nullWords.contains t then .null
  else if (Timestamp.fields? 2 s).isSome then .timestamp
  else if t == "=" then .value
  else if t == "!" || t == "&" || t == "*" then .unknown
  else .text

end KbDocs.Yaml
