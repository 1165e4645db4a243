/-
Values in JSON, and their text over several lines: two spaces for each
level, ASCII only.
-/
import KbDocs.Text.Quoted

namespace KbDocs

/-- A value in JSON, as far as it is written here. -/
inductive Json where
  | null
  | bool (b : Bool)
  | string (s : String)
  | list (items : List Json)
  | object (fields : List (String × Json))

namespace Json

/-- A code unit as an escape. -/
def unitEscape (n : Nat) : List Char :=
  '\\' :: 'u' :: Text.hexPadded 4 n

/-- A character as it stands in a string. Beyond sixteen bits, it is
written as a surrogate pair. -/
def escapedChar (c : Char) : List Char :=
  let n := c.toNat
  if c == '"' then ['\\', '"']
  else if c == '\\' then ['\\', '\\']
  else if c == '\n' then ['\\', 'n']
  else if c == '\r' then ['\\', 'r']
  else if c == '\t' then ['\\', 't']
  else if n == 8 then ['\\', 'b']
  else if n == 12 then ['\\', 'f']
  else if 32 ≤ n && n < 127 then [c]
  else if n < 0x10000 then unitEscape n
  else
    let m := n - 0x10000
    unitEscape (0xD800 + m / 0x400) ++ unitEscape (0xDC00 + m % 0x400)

/-- A string between quotes. -/
def quotedText (s : String) : String :=
  String.ofList ('"' :: s.toList.flatMap escapedChar ++ ['"'])

/-- A new line at a level. -/
def newLine (level : Nat) : String :=
  String.ofList ('\n' :: List.replicate (2 * level) ' ')

mutual

/-- The text of a value at a level. -/
def pretty (level : Nat) : Json → String
  | .null => "null"
  | .bool true => "true"
  | .bool false => "false"
  | .string s => quotedText s
  | .list [] => "[]"
  | .list (item :: items) =>
      "[" ++ newLine (level + 1) ++ pretty (level + 1) item
        ++ prettyItems (level + 1) items ++ newLine level ++ "]"
  | .object [] => "\x7b\x7d"
  | .object ((name, value) :: fields) =>
      "\x7b" ++ newLine (level + 1) ++ quotedText name ++ ": "
        ++ pretty (level + 1) value
        ++ prettyFields (level + 1) fields ++ newLine level ++ "\x7d"

/-- The text of further items of a list. -/
def prettyItems (level : Nat) : List Json → String
  | [] => ""
  | item :: items =>
      "," ++ newLine level ++ pretty level item ++ prettyItems level items

/-- The text of further fields of an object. -/
def prettyFields (level : Nat) : List (String × Json) → String
  | [] => ""
  | (name, value) :: fields =>
      "," ++ newLine level ++ quotedText name ++ ": " ++ pretty level value
        ++ prettyFields level fields

end

end Json

end KbDocs
