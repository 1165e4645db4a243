/-
Bytes written as base64: four characters for three bytes. Characters
that are not in the alphabet are passed over, and what follows the
padding is not read.
-/
namespace KbDocs.Yaml

/-- The value of a character in the alphabet. -/
def sextet? (c : Char) : Option Nat :=
  if 'A' ≤ c && c ≤ 'Z' then some (c.toNat - 65)
  else if 'a' ≤ c && c ≤ 'z' then some (c.toNat - 71)
  else if '0' ≤ c && c ≤ '9' then some (c.toNat + 4)
  else if c == '+' then some 62
  else if c == '/' then some 63
  else none

/-- The bytes of a group of up to four characters: those that are
complete. -/
def groupBytes (group : List Nat) : List UInt8 :=
  let n := (group ++ List.replicate (4 - group.length) 0).foldl (fun n d => n * 64 + d) 0
  [n / 65536, n / 256 % 256, n % 256].take (group.length - 1) |>.map Nat.toUInt8

/-- The bytes of a text, given the start of a group and the padding
read behind it. A text that ends within a group is no base64. -/
def base64From (group : List Nat) (padding : Nat) : List Char → Option (List UInt8)
  | [] => if group.isEmpty then some [] else none
  | c :: r =>
      if c == '=' then
        if 2 ≤ group.length then
          if 4 ≤ group.length + padding + 1 then some (groupBytes group)
          else base64From group (padding + 1) r
        else base64From group padding r
      else
        match sextet? c with
        | none => base64From group padding r
        | some d =>
            if group.length == 3 then
              (base64From [] 0 r).map (groupBytes (group ++ [d]) ++ ·)
            else base64From (group ++ [d]) 0 r

/-- The bytes that an ASCII text stands for. -/
def base64? (s : List Char) : Option (List UInt8) :=
  if s.all fun c => c.toNat < 128 then base64From [] 0 s else none

end KbDocs.Yaml
