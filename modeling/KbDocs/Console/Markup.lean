/-
Markup in text for the screen. A tag in square brackets sets a style
until it is closed; on a screen without styles, tags just vanish. What
matters then is which brackets are tags, and that every closing tag has
something to close. A backslash in front of a tag makes it plain text.
-/
import KbDocs.Console.Renderer
import KbDocs.Text.Blank
import KbDocs.Text.Case

namespace KbDocs.Console

-- ================================================================ tags

/-- A stretch of marked up text: plain text, or a tag by what stands
between its brackets. -/
inductive Piece where
  | text (s : List Char)
  | tag (inside : List Char)

/-- Whether a tag may begin with a character. -/
def startsTag (c : Char) : Bool :=
  ('a' ≤ c && c ≤ 'z') || c == '#' || c == '/' || c == '@'

/-- The inside of the tag that opens a text, and the text behind it. No
bracket may open within a tag. -/
def tagAt? : List Char → Option (List Char × List Char)
  | '[' :: c :: r =>
      let inside := (c :: r).takeWhile fun x => x != '[' && x != ']'
      match (c :: r).drop inside.length with
      | ']' :: rest => if startsTag c then some (inside, rest) else none
      | _ => none
  | _ => none

/-- Plain text as it is meant: a backslash before a bracket is left
out. -/
def unescape : List Char → List Char
  | '\\' :: '[' :: r => '[' :: unescape r
  | c :: r => c :: unescape r
  | [] => []

/-- The pieces of a text, behind plain text already read. Of the
backslashes before a tag, each pair is one backslash; one left over makes
the tag plain. -/
def piecesFrom : Nat → List Char → List Char → List Piece
  | 0, plain, s => [.text (unescape (plain ++ s))]
  | bound + 1, plain, s =>
      let slashes := (s.takeWhile (· == '\\')).length
      match tagAt? (s.drop slashes) with
      | some (inside, rest) =>
          let halves := List.replicate (slashes / 2) '\\'
          let found : Piece :=
            if slashes % 2 == 1 then .text ('[' :: inside ++ [']'])
            else .tag inside
          .text (unescape plain) :: .text halves :: found :: piecesFrom bound [] rest
      | none =>
          match s with
          | [] => [.text (unescape plain)]
          | c :: r => piecesFrom bound (plain ++ [c]) r

/-- The pieces of a text. -/
def pieces (s : List Char) : List Piece :=
  piecesFrom (s.length + 1) [] s

-- ============================================================== styles

/-- The attributes of styles, in the order they are listed, with their
short names. -/
def styleAttributes : List (String × List String) :=
  [("bold", ["b"]), ("dim", ["d"]), ("italic", ["i"]), ("underline", ["u"]),
    ("blink", []), ("blink2", []), ("reverse", ["r"]), ("conceal", ["c"]),
    ("strike", ["s"]), ("underline2", ["uu"]), ("frame", []), ("encircle", []),
    ("overline", ["o"])]

/-- The attribute that a word names. -/
def attribute? (word : String) : Option String :=
  (styleAttributes.find? fun (name, short) => name == word || short.contains word).map (·.1)

/-- The names of the basic colours, which also have a bright form. -/
def colourNames : List String :=
  ["black", "red", "green", "yellow", "blue", "magenta", "cyan", "white"]

/-- The arguments of a colour written as a function. -/
def colourArguments? (function : String) (word : List Char) : Option (List Char) :=
  let opening := function.toList ++ ['(']
  if opening.isPrefixOf word && word.getLast? == some ')' then
    some (word.drop opening.length).dropLast
  else none

/-- Whether digits stand for a number up to 255. -/
def isColourNumber (digits : List Char) : Bool :=
  !digits.isEmpty && digits.all Char.isDigit
    && digits.foldl (fun n c => n * 10 + (c.toNat - 48)) 0 ≤ 255

/-- The parts of a text between commas. -/
def commaParts (s : List Char) : List (List Char) :=
  s.foldr
    (fun c parts =>
      if c == ',' then [] :: parts
      else
        match parts with
        | [] => [[c]]
        | p :: rest => (c :: p) :: rest)
    [[]]

/-- Whether a word in lower case is a colour: a name, six hexadecimal
digits, the number of a colour, or three parts. -/
def isColour (word : String) : Bool :=
  let s := word.toList
  word == "default" || colourNames.contains word
    || (colourNames.map ("bright_" ++ ·)).contains word
    || (match s with
      | '#' :: r =>
          r.length == 6 && r.all fun c => c.isDigit || ('a' ≤ c && c ≤ 'f')
      | _ => false)
    || (colourArguments? "color" s).any (fun n => n.length ≤ 3 && isColourNumber n)
    || (colourArguments? "rgb" s).any fun a =>
      (commaParts a).length == 3 && (commaParts a).all isColourNumber

/-- A style: attributes that are set on or off, colours and a link. -/
structure Style where
  attributes : List (String × Bool) := []
  colour : Option String := none
  background : Option String := none
  link : Option String := none

/-- A style with one more attribute. -/
def Style.set (s : Style) (name : String) (isOn : Bool) : Style :=
  { s with attributes := (name, isOn) :: s.attributes }

/-- A style with the further words of its definition, if they make
sense. -/
def Style.read? (s : Style) : List String → Option Style
  | [] => some s
  | [w] =>
      let word := Text.lowercase w
      match attribute? word with
      | some name => some (s.set name true)
      | none => if isColour word then some { s with colour := some word } else none
  | w :: next :: rest =>
      let word := Text.lowercase w
      if word == "on" then
        let colour := Text.lowercase next
        if isColour colour then { s with background := some colour }.read? rest else none
      else if word == "not" then
        match attribute? next with
        | some name => (s.set name false).read? rest
        | none => none
      else if word == "link" then { s with link := some next }.read? rest
      else
        match attribute? word with
        | some name => (s.set name true).read? (next :: rest)
        | none =>
            if isColour word then { s with colour := some word }.read? (next :: rest)
            else none

/-- The words of a style, in one order for all its spellings. -/
def Style.words (s : Style) : List String :=
  (styleAttributes.flatMap fun (name, _) =>
    match s.attributes.lookup name with
    | some true => [name]
    | some false => ["not", name]
    | none => [])
    ++ s.colour.toList
    ++ (s.background.map (["on", ·])).getD []
    ++ (s.link.map (["link", ·])).getD []

/-- The name that a tag is known by, so that different spellings of one
style close each other. -/
def styleName (s : List Char) : List String :=
  let words := (Text.words s).map String.ofList
  if words == ["none"] then []
  else
    match ({} : Style).read? words with
    | some style => style.words
    | none => [String.ofList (Text.lower (Text.trim s))]

-- ============================================================ plain text

/-- Whether a character is kept: a few control characters are not. -/
def isShown (c : Char) : Bool :=
  let n := c.toNat
  n != 7 && n != 8 && n != 11 && n != 12 && n != 13

/-- The name of a tag, which may have something assigned to it. -/
def tagName (inside : List Char) : List Char :=
  inside.takeWhile (· != '=')

/-- The tags that are open behind a tag, given those that are open before
it, the latest first. A closing tag without a name closes the latest. -/
def afterTag (isOpen : List (List String)) (inside : List Char) :
    Except MarkupError (List (List String)) :=
  match tagName inside with
  | '/' :: name =>
      if Text.allBlank name then
        match isOpen with
        | [] => .error ⟨"/"⟩
        | _ :: outer => .ok outer
      else if isOpen.contains (styleName name) then .ok (isOpen.erase (styleName name))
      else .error ⟨String.ofList ('/' :: name)⟩
  | name => .ok (styleName name :: isOpen)

/-- The plain text of some pieces, given the tags that are open. -/
def plainFrom (isOpen : List (List String)) : List Piece → Except MarkupError (List Char)
  | [] => .ok []
  | .text s :: rest => do return s.filter isShown ++ (← plainFrom isOpen rest)
  | .tag inside :: rest => do plainFrom (← afterTag isOpen inside) rest

/-- The plain text of marked up text. -/
def plainText (s : String) : Except MarkupError (List Char) :=
  plainFrom [] (pieces s.toList)

end KbDocs.Console
