/-
Doubles as text. Written, a double has the fewest digits that read back
as it, a point in any case unless it has an exponent, and an exponent
where the point would stand more than sixteen places behind the first
digit or more than four before it. Read, a decimal becomes the nearest
double.
-/
import KbDocs.Decimal.Shortest
import KbDocs.Text.Blank

namespace KbDocs.Decimal

/-- Digits with a point after a number of them, which may lie outside of
them. -/
def positional (digits : List Char) (point : Int) : List Char :=
  if point ≤ 0 then
    ['0', '.'] ++ List.replicate (-point).toNat '0' ++ digits
  else
    let whole := digits.take point.toNat
    let fraction := digits.drop point.toNat
    whole ++ List.replicate (point.toNat - digits.length) '0' ++ ['.']
      ++ (if fraction.isEmpty then ['0'] else fraction)

/-- Digits with a point after the first and the power of ten that makes
up for it, in at least two digits and signed. -/
def scientific (digits : List Char) (power : Int) : List Char :=
  let size := Nat.toDigits 10 power.natAbs
  let mantissa := match digits with
    | [] => []
    | [d] => [d]
    | d :: r => d :: '.' :: r
  mantissa ++ ['e', if power < 0 then '-' else '+']
    ++ List.replicate (2 - size.length) '0' ++ size

/-- The text of a double. -/
def written (f : Float) : String :=
  let bits := f.toBits
  if f.isNaN then "nan"
  else
    let size :=
      if !isFinite bits then "inf".toList
      else
        let b := Binary.ofBits bits
        if b.significand == 0 then "0.0".toList
        else
          let (k, e) := b.shortest
          let digits := Nat.toDigits 10 k
          let point := digits.length + e
          if -4 < point && point ≤ 16 then positional digits point
          else scientific digits (point - 1)
    String.ofList (if isNegative bits then '-' :: size else size)

-- ============================================================= reading

/-- The value of decimal digits. -/
def digitsValue (digits : List Char) : Nat :=
  digits.foldl (fun n c => n * 10 + (c.toNat - 48)) 0

/-- The double beyond all numbers. -/
def infinite : Float :=
  1.0 / 0.0

/-- `n * 10 ^ e` as a double. Beyond the range of doubles it is infinite
or zero, whatever the size of the exponent. -/
def nearest (n : Nat) (e : Int) : Float :=
  let size := (Nat.toDigits 10 n).length + e
  if n == 0 || size < -330 then 0.0
  else if 310 < size then infinite
  else if 0 ≤ e then Float.ofScientific n false e.toNat
  else Float.ofScientific n true (-e).toNat

/-- The exponent of a decimal; none is written as nothing. -/
def exponent? : List Char → Option Int
  | [] => some 0
  | 'e' :: r =>
      let (negative, digits) := match r with
        | '-' :: d => (true, d)
        | '+' :: d => (false, d)
        | d => (false, d)
      if digits.isEmpty || !digits.all Char.isDigit then none
      else
        let n : Int := digitsValue digits
        some (if negative then -n else n)
  | _ => none

/-- A decimal without sign, in lower case. -/
def magnitude? (s : List Char) : Option Float :=
  if s == "inf".toList || s == "infinity".toList then some infinite
  else if s == "nan".toList then some (0.0 / 0.0)
  else
    let whole := s.takeWhile Char.isDigit
    let rest := s.dropWhile Char.isDigit
    let (fraction, rest) := match rest with
      | '.' :: r => (r.takeWhile Char.isDigit, r.dropWhile Char.isDigit)
      | r => ([], r)
    if whole.isEmpty && fraction.isEmpty then none
    else (exponent? rest).map fun e =>
      nearest (digitsValue (whole ++ fraction)) (e - fraction.length)

/-- The double that a text in lower case stands for, with blanks around
it and a sign allowed. -/
def read? (s : List Char) : Option Float :=
  match Text.trim s with
  | '-' :: r => (magnitude? r).map fun f => -f
  | '+' :: r => magnitude? r
  | r => magnitude? r

end KbDocs.Decimal
