/-
Paths: a small query language over elements. A path is a sequence of
steps divided by slashes; each step takes a list of elements to a new
one:

  name   the children with a tag      *    all children
  .      the elements themselves      ..   their parents, each once
  //x    the descendants with a tag   […]  those that a condition holds of

A path without any special character is a tag and nothing else, so that
a colon in it has no meaning. Elements are told apart by their place
below the start, a list of child numbers, because equal elements may
stand at several places.
-/
import KbDocs.Text.Cut
import KbDocs.Text.Quoted
import KbDocs.Xml.Element

namespace KbDocs.Xml

/-- Why a text is no path. -/
inductive PathError where
  | absolute
  | invalidPredicate
  | unknownPrefix (name : String)
  | positionTooSmall
  | invalidDescendant
  | unsupportedFunction
  | unsupportedExpression
  | offsetNotNegative
  /-- A token that starts no step. -/
  | unexpected (token : String)
  /-- The path ends within a step. -/
  | incomplete
deriving DecidableEq

/-- The wording of a path error. -/
def PathError.message : PathError → String
  | absolute => "cannot use absolute path on element"
  | invalidPredicate => "invalid predicate"
  | unknownPrefix name => "prefix " ++ Text.quoted name ++ " not found in prefix map"
  | positionTooSmall => "XPath position >= 1 expected"
  | invalidDescendant => "invalid descendant"
  | unsupportedFunction => "unsupported function"
  | unsupportedExpression => "unsupported expression"
  | offsetNotNegative => "XPath offset from last() must be negative"
  | unexpected token => Text.quoted token
  | incomplete => "'NoneType' object is not callable"

-- ============================================================= tokens

/-- A token of a path. -/
inductive PathToken where
  | mark (text : String)
  /-- A text between two of the same quotation mark. -/
  | quotedText (mark : Char) (text : String)
  | tag (name : String)
  | space
deriving DecidableEq

/-- Whether a character can stand in a tag of a path. -/
def isPathTagChar (c : Char) : Bool :=
  !("/[]()@!=".toList.contains c || Text.isBlank c)

/-- The longest tag at the head of a path: a namespace in braces and tag
characters, or tag characters alone. -/
def pathTag (s : List Char) : List Char × List Char :=
  let plain := (s.takeWhile isPathTagChar, s.dropWhile isPathTagChar)
  match s with
  | '{' :: r =>
      match Text.cutAt '}' r with
      | (uri, some after) =>
          let name := after.takeWhile isPathTagChar
          if uri.isEmpty || name.isEmpty then plain
          else ('{' :: uri ++ '}' :: name, after.dropWhile isPathTagChar)
      | _ => plain
  | _ => plain

/-- The first token of a path and what follows it. A character that no
token starts with is passed over. -/
def pathToken (s : List Char) : Option PathToken × List Char :=
  let quotedOr (q : Char) (r : List Char) : Option PathToken × List Char :=
    match Text.cutAt q r with
    | (inside, some after) => (some (.quotedText q (String.ofList inside)), after)
    | _ =>
        let (name, rest) := pathTag s
        (some (.tag (String.ofList name)), rest)
  match s with
  | [] => (none, [])
  | '\x27' :: r => quotedOr '\x27' r
  | '"' :: r => quotedOr '"' r
  | ':' :: ':' :: r => (some (.mark "::"), r)
  | '/' :: '/' :: r => (some (.mark "//"), r)
  | '.' :: '.' :: r => (some (.mark ".."), r)
  | '(' :: ')' :: r => (some (.mark "()"), r)
  | '!' :: '=' :: r => (some (.mark "!="), r)
  | c :: r =>
      if "/.*:[]()@=".toList.contains c then (some (.mark (String.singleton c)), r)
      else if Text.isBlank c then (some .space, r.dropWhile Text.isBlank)
      else if c = '!' then (none, r)
      else
        let (name, rest) := pathTag s
        (some (.tag (String.ofList name)), rest)

/-- The tokens of a path no longer than `fuel`. -/
def pathTokensFrom : Nat → List Char → List PathToken
  | 0, _ => []
  | _ + 1, [] => []
  | fuel + 1, s =>
      let (token, rest) := pathToken s
      token.toList ++ pathTokensFrom fuel rest

/-- The tokens of a path. -/
def pathTokens (path : String) : List PathToken :=
  pathTokensFrom path.length path.toList

-- ============================================================== steps

/-- A condition on an element. -/
inductive PathCondition where
  | hasAttribute (name : String)
  | attributeIs (name value : String) (expected : Bool)
  | hasChild (tag : String)
  | childTextIs (tag value : String) (expected : Bool)
  | textIs (value : String) (expected : Bool)
  /-- A number among the children with the same tag, from the first. -/
  | position (index : Nat)
  /-- A number among the children with the same tag, from the last. -/
  | positionFromLast (index : Nat)

/-- A step of a path. -/
inductive PathStep where
  | child (tag : String)
  | anyChild
  | self
  | parent
  | descendant (tag : Option String)
  | filter (condition : PathCondition)

/-- Whether a text is a number with an optional minus sign. -/
def isSignedNumber (s : List Char) : Bool :=
  let digits := match s with
    | '-' :: r => r
    | r => r
  !digits.isEmpty && digits.all Char.isDigit

/-- The value of a text that is a number with an optional sign. -/
def signedNumber? (s : List Char) : Option Int :=
  let value (digits : List Char) : Option Nat :=
    if digits.isEmpty || !digits.all Char.isDigit then none
    else some (digits.foldl (fun n c => n * 10 + (c.toNat - '0'.toNat)) 0)
  match s with
  | '-' :: r => (value r).map fun n => -(n : Int)
  | '+' :: r => (value r).map fun n => (n : Int)
  | r => (value r).map fun n => (n : Int)

/-- A tag in a path, which cannot use a namespace's short name. -/
def checkTag (name : String) : Except PathError String :=
  match name.toList with
  | '{' :: _ => .ok name
  | s =>
      match Text.cutAt ':' s with
      | (pre, some _) => .error (.unknownPrefix (String.ofList pre))
      | _ => .ok name

/-- The tokens of a condition up to its closing bracket, white space left
out: each as its kind and its text. -/
def conditionTokens : List PathToken →
    Except PathError (List (String × String) × List PathToken)
  | [] => .error .incomplete
  | .mark "]" :: rest => .ok ([], rest)
  | .space :: rest => conditionTokens rest
  | token :: rest => do
      let item ←
        match token with
        | .tag name => do pure ("-", ← checkTag name)
        | .quotedText _ text => pure ("'", text)
        | .mark text => pure (text, "")
        | .space => pure ("", "")
      let (items, rest) ← conditionTokens rest
      return (item :: items, rest)

/-- The condition that tokens within brackets express. -/
def condition (items : List (String × String)) : Except PathError PathCondition :=
  let form := String.join (items.map (·.1))
  let text (i : Nat) : String := ((items[i]?).map (·.2)).getD ""
  let last : String := (items.getLast?.map (·.2)).getD ""
  let numeric := isSignedNumber (text 0).toList
  match form with
  | "@-" => .ok (.hasAttribute (text 1))
  | "@-='" => .ok (.attributeIs (text 1) last true)
  | "@-!='" => .ok (.attributeIs (text 1) last false)
  | ".='" => .ok (.textIs last true)
  | ".!='" => .ok (.textIs last false)
  | "-='" =>
      if numeric then .error .invalidPredicate else .ok (.childTextIs (text 0) last true)
  | "-!='" =>
      if numeric then .error .invalidPredicate else .ok (.childTextIs (text 0) last false)
  | "-" =>
      if numeric then
        match signedNumber? (text 0).toList with
        | some (Int.ofNat (n + 1)) => .ok (.position n)
        | _ => .error .positionTooSmall
      else .ok (.hasChild (text 0))
  | "-()" => if text 0 = "last" then .ok (.positionFromLast 0) else .error .unsupportedFunction
  | "-()-" =>
      if text 0 ≠ "last" then .error .unsupportedFunction
      else
        match signedNumber? (text 2).toList with
        | none => .error .unsupportedExpression
        | some (Int.negSucc n) => .ok (.positionFromLast (n + 1))
        | some _ => .error .offsetNotNegative
  | _ => .error .invalidPredicate

/-- The steps that tokens express, no more than `fuel`. -/
def pathSteps : Nat → List PathToken → Except PathError (List PathStep)
  | 0, _ => .ok []
  | _ + 1, [] => .ok []
  | fuel + 1, token :: rest => do
      let (step, rest) ←
        match token, rest with
        | .tag name, rest => do pure (PathStep.child (← checkTag name), rest)
        | .space, rest => pure (.child "", rest)
        | .mark "*", rest => pure (.anyChild, rest)
        | .mark ".", rest => pure (.self, rest)
        | .mark "..", rest => pure (.parent, rest)
        | .mark "//", .mark "*" :: rest => pure (.descendant none, rest)
        | .mark "//", .tag name :: rest => do pure (.descendant (some (← checkTag name)), rest)
        | .mark "//", .space :: rest => pure (.descendant (some ""), rest)
        | .mark "//", [] => throw .incomplete
        | .mark "//", _ => throw .invalidDescendant
        | .mark "[", rest => do
            let (items, rest) ← conditionTokens rest
            pure (.filter (← condition items), rest)
        | .mark text, _ => throw (.unexpected text)
        | .quotedText mark text, _ =>
            throw (.unexpected (mark.toString ++ text ++ mark.toString))
      let rest := match rest with
        | .mark "/" :: more => more
        | more => more
      return step :: (← pathSteps fuel rest)

/-- Whether a path has a meaning beyond being a tag. Special characters
within braces do not count. -/
def hasPathChar (s : List Char) : Bool :=
  let rec go (counted : Bool) : List Char → Bool
    | [] => false
    | '{' :: r => go false r
    | '}' :: r => go true r
    | c :: r => (counted && "/*[@.".toList.contains c) || go counted r
  match s with
  | '{' :: '}' :: _ :: _ => true
  | '{' :: '*' :: '}' :: _ => true
  | s => go true s

/-- The steps of a path. A slash at its end stands for all children. -/
def parsePath (path : String) : Except PathError (List PathStep) :=
  if !hasPathChar path.toList then .ok [.child path]
  else
    let path := if path.toList.getLast? = some '/' then path ++ "*" else path
    match path.toList with
    | '/' :: _ => .error .absolute
    | _ => pathSteps path.length (pathTokens path)

-- ========================================================= evaluation

/-- The place of an element below another, as child numbers. -/
abbrev Location :=
  List Nat

/-- The element at a place. -/
def Element.at? (e : Element) : Location → Option Element
  | [] => some e
  | i :: rest =>
      match e.children[i]? with
      | some c => c.at? rest
      | none => none

/-- Whether a tag fits a tag of a path, in which an asterisk stands for
any namespace or for any name. -/
def tagFits (pattern tag : String) : Bool :=
  let p := pattern.toList
  let t := tag.toList
  match p with
  | '{' :: '*' :: '}' :: name =>
      if name = ['*'] then true
      else t == name || ('}' :: name).isSuffixOf t
  | '{' :: '}' :: name =>
      if name = ['*'] then t.head? != some '{' else t == name
  | _ =>
      if ['}', '*'].isSuffixOf p then p.dropLast.isPrefixOf t else p == t

/-- The places of the children of an element. -/
def childLocations (root : Element) (place : Location) : List Location :=
  match root.at? place with
  | some e => (List.range e.children.length).map fun i => place ++ [i]
  | none => []

/-- The places below a place in document order, for an element with no
more than `depth` levels. -/
def descendantLocations (root : Element) : Nat → Location → List Location
  | 0, _ => []
  | depth + 1, place =>
      (childLocations root place).flatMap fun p =>
        p :: descendantLocations root depth p

/-- How many levels of elements there are. -/
def Element.depth : Element → Nat
  | node _ _ _ children _ =>
      1 + (children.attach.map fun ⟨c, _⟩ => c.depth).foldl max 0

/-- The place of the parent, if it lies within the start. -/
def parentLocation? : Location → Option Location
  | [] => none
  | place => some place.dropLast

/-- The numbers of the children with a tag. -/
def Element.childrenTagged (e : Element) (tag : String) : List Nat :=
  (e.children.zipIdx.filter fun (c, _) => c.tag == tag).map (·.2)

/-- Whether the element `e` at a place is the one counted among its
parent's children of the same tag. -/
def atPosition (root : Element) (place : Location) (e : Element)
    (pick : List Nat → Option Nat) : Bool :=
  match (parentLocation? place).bind root.at? with
  | some above =>
      match pick (above.childrenTagged e.tag) with
      | some i => place.getLast? == some i
      | none => false
  | none => false

/-- Whether a condition holds of the element at a place. -/
def PathCondition.holds (root : Element) (place : Location) (c : PathCondition) : Bool :=
  match root.at? place with
  | none => false
  | some e =>
      match c with
      | hasAttribute name => (e.rawAttribute? name).isSome
      | attributeIs name value true => e.rawAttribute? name == some value
      | attributeIs name value false =>
          match e.rawAttribute? name with
          | some v => v != value
          | none => false
      | hasChild tag => e.children.any fun c => tagFits tag c.tag
      | childTextIs tag value expected =>
          e.children.any fun c =>
            tagFits tag c.tag && ((c.innerText == value) == expected)
      | textIs value expected => (e.innerText == value) == expected
      | position index => atPosition root place e (·[index]?)
      | positionFromLast index => atPosition root place e (·.reverse[index]?)

/-- Each value once, in the order of first occurrence. -/
def distinct (places : List Location) : List Location :=
  places.foldl (fun seen p => if seen.contains p then seen else seen ++ [p]) []

/-- Whether the element at a place has a tag of a path. -/
def tagAt (root : Element) (pattern : String) (place : Location) : Bool :=
  match root.at? place with
  | some e => tagFits pattern e.tag
  | none => false

/-- One step from a list of places below `root`. -/
def PathStep.apply (root : Element) (places : List Location) : PathStep → List Location
  | child tag => places.flatMap fun p => (childLocations root p).filter (tagAt root tag)
  | anyChild => places.flatMap (childLocations root)
  | self => places
  | parent => distinct (places.filterMap parentLocation?)
  | descendant none => places.flatMap (descendantLocations root root.depth)
  | descendant (some tag) =>
      places.flatMap fun p =>
        (descendantLocations root root.depth p).filter (tagAt root tag)
  | filter c => places.filter fun p => c.holds root p

/-- The elements that a path leads to, in order. -/
def Element.findAll (e : Element) (path : String) : Except PathError (List Element) := do
  let steps ← parsePath path
  return (steps.foldl (PathStep.apply e) [[]]).filterMap e.at?

/-- The first element that a path leads to. -/
def Element.findFirst (e : Element) (path : String) : Except PathError (Option Element) := do
  return (← e.findAll path).head?

/-- The trimmed inner text of the first element that a path leads to,
empty if there is none. -/
def Element.textAt (e : Element) (path : String) : Except PathError String := do
  return ((← e.findFirst path).map Element.trimmedText).getD ""

end KbDocs.Xml
