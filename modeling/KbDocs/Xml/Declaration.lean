/-
The document declaration, `<?xml version="1.0" encoding="…"?>`: the
version first, then an optional encoding and an optional standalone
mark. The version is not looked at. A declaration that strays from this
form is a fault at the first place where it does.
-/
import KbDocs.Xml.Token

namespace KbDocs.Xml

/-- One `name="value"` of a declaration with the places of both. -/
structure PseudoAttribute where
  name : List Char
  namePlace : List Symbol
  value : List Char
  valuePlace : List Symbol

/-- What a document declares of itself. -/
structure Declaration where
  /-- The encoding's name and its place. -/
  encoding : Option (List Char × List Symbol) := none
  standalone : Bool := false

/-- The name of a pseudo attribute, up to an equals sign or white
space. -/
def pseudoName : List Symbol → Except (List Symbol) (List Char × List Symbol)
  | .char c :: r =>
      if c = '=' || isSpace c then .ok ([], .char c :: r)
      else if c.toNat < 128 then
        (pseudoName r).map fun (name, rest) => (c :: name, rest)
      else .error (.char c :: r)
  | s => .error s

/-- The value of a pseudo attribute, up to its closing quote. -/
def pseudoValue (quote : Char) :
    List Symbol → Except (List Symbol) (List Char × List Symbol)
  | .char c :: r =>
      if c = quote then .ok ([], r)
      else if c.isAlphanum || c = '.' || c = '-' || c = '_' then
        (pseudoValue quote r).map fun (value, rest) => (c :: value, rest)
      else .error (.char c :: r)
  | s => .error s

/-- The next pseudo attribute of a declaration and what follows it, or
nothing at the declaration's end. An error is the place that does not
fit. -/
def pseudoAttribute? (s : List Symbol) :
    Except (List Symbol) (Option (PseudoAttribute × List Symbol)) := do
  match s with
  | [] => return none
  | .char c :: _ => if !isSpace c then throw s
  | _ => throw s
  match skipSpace s with
  | [] => return none
  | start =>
      let (name, afterName) ← pseudoName start
      match skipSpace afterName with
      | .char '=' :: r =>
          if name.isEmpty then throw (.char '=' :: r)
          match skipSpace r with
          | .char q :: inside =>
              if q != '"' && q != '\x27' then throw (.char q :: inside)
              let (value, rest) ← pseudoValue q inside
              return some (⟨name, start, value, inside⟩, rest)
          | place => throw place
      | place => throw place

/-- The standalone mark, with which a declaration ends. -/
def standaloneMark (declaration : Declaration) (p : PseudoAttribute)
    (rest : List Symbol) : Except (List Symbol) Declaration :=
  if p.name != "standalone".toList then .error p.namePlace
  else if p.value != "yes".toList && p.value != "no".toList then .error p.valuePlace
  else
    match skipSpace rest with
    | [] => .ok { declaration with standalone := p.value == "yes".toList }
    | place => .error place

/-- Reads the inside of a declaration, between `<?xml` and `?>`. -/
def Declaration.parse (s : List Symbol) : Except (List Symbol) Declaration := do
  match ← pseudoAttribute? s with
  | none => throw s
  | some (version, rest) =>
      if version.name != "version".toList then throw version.namePlace
      match ← pseudoAttribute? rest with
      | none => return {}
      | some (second, rest) =>
          if second.name = "encoding".toList then
            match second.value with
            | c :: _ => if !c.isAlpha then throw second.valuePlace
            | [] => throw second.valuePlace
            let declared : Declaration :=
              { encoding := some (second.value, second.valuePlace) }
            match ← pseudoAttribute? rest with
            | none => return declared
            | some (third, rest) => standaloneMark declared third rest
          else standaloneMark {} second rest

end KbDocs.Xml
