/-
File paths. A path is kept in its plain form: no empty parts and no
parts that stand for the directory itself. Parts that lead up are kept,
since what they lead to is known only in a file tree.
-/
import KbDocs.Text.Cut

namespace KbDocs.Files

/-- A path: the slashes it starts with, and its parts. -/
structure FilePath where
  root : String := ""
  parts : List String := []
deriving DecidableEq, Inhabited

namespace FilePath

/-- The slashes that a path starts with as far as they count: exactly two
of them count as two, and any other number as one. -/
def rootOf (s : List Char) : String :=
  match (s.takeWhile (· == '/')).length with
  | 0 => ""
  | 2 => "//"
  | _ => "/"

/-- Reads a path. -/
def ofString (s : String) : FilePath :=
  { root := rootOf s.toList
    parts := ((Text.pieces '/' s.toList).map String.ofList).filter
      fun p => p ≠ "" && p ≠ "." }

/-- The text of a path; the directory itself is a full stop. -/
def toString (p : FilePath) : String :=
  if p.root = "" && p.parts.isEmpty then "."
  else p.root ++ Text.joinStrings "/" p.parts

/-- A file directly inside a directory. -/
def child (p : FilePath) (name : String) : FilePath :=
  { p with parts := p.parts ++ [name] }

/-- The path without its last part. -/
def parent (p : FilePath) : FilePath :=
  { p with parts := p.parts.dropLast }

/-- The ending of the last part, from its last full stop on; a full stop
at either end starts none. -/
def suffix (p : FilePath) : String :=
  match p.parts.getLast? with
  | none => ""
  | some name =>
      let (ending, before) := Text.cutAt '.' name.toList.reverse
      match before with
      | some (_ :: _) =>
          if ending.isEmpty then "" else String.ofList ('.' :: ending.reverse)
      | _ => ""

end FilePath

end KbDocs.Files
