/-
Letter case over all of Unicode. A letter may have a counterpart of
several characters, and a capital sigma at the end of a word becomes the
final small sigma, so both mappings work on text and not on characters.
-/
import KbDocs.Text.CaseTable
import KbDocs.Text.WordChar

namespace KbDocs.Text

/-- A character's counterpart by a table of runs and a table of longer
forms; a character in neither is its own counterpart. -/
def mapCase (runs : List CaseRun) (specials : List (Nat × List Nat))
    (c : Char) : List Char :=
  match runs.findSome? (·.image? c.toNat) with
  | some n => [Char.ofNat n]
  | none =>
      match specials.lookup c.toNat with
      | some ns => ns.map Char.ofNat
      | none => [c]

/-- The upper case form of a character. -/
def upperChar (c : Char) : List Char :=
  if c.toNat < 128 then [c.toUpper] else mapCase upperRuns upperSpecials c

/-- The lower case form of a character, away from the sigma rule. -/
def lowerChar (c : Char) : List Char :=
  if c.toNat < 128 then [c.toLower] else mapCase lowerRuns lowerSpecials c

/-- The upper case form of a text. -/
def upper (s : List Char) : List Char :=
  s.flatMap upperChar

/-- Whether the first character that counts, looking along a text, is a
letter with case. -/
def meetsCased (s : List Char) : Bool :=
  match s.dropWhile (fun c => inRanges ignorableRanges c.toNat) with
  | [] => false
  | c :: _ => inRanges casedRanges c.toNat

/-- Lower case with the text already passed, nearest character first: a
capital sigma is final when a letter precedes it and none follows. -/
def lowerFrom (passed : List Char) : List Char → List Char
  | [] => []
  | c :: r =>
      (if c = 'Σ' then
        [if meetsCased passed && !meetsCased r then 'ς' else 'σ']
      else lowerChar c) ++ lowerFrom (c :: passed) r

/-- The lower case form of a text. -/
def lower (s : List Char) : List Char :=
  lowerFrom [] s

/-- `lower` on strings. -/
def lowercase (s : String) : String :=
  String.ofList (lower s.toList)

end KbDocs.Text
