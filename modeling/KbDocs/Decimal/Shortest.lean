/-
The shortest decimal that reads back as a given double. A double stands
for every real that rounds to it, an interval around its own value; of
the decimals in that interval, the one on the coarsest grid of powers of
ten has the fewest digits. All of it is arithmetic on natural numbers.
-/
namespace KbDocs.Decimal

/-- A finite double without its sign: `significand * 2 ^ exponent`. -/
structure Binary where
  significand : Nat
  exponent : Int
deriving DecidableEq

/-- The bit above the 52 bits of a fraction, which all doubles have but
the smallest. -/
def leadingBit : Nat :=
  0x10000000000000

/-- The exponent field of a double. -/
def exponentField (bits : UInt64) : Nat :=
  bits.toNat / leadingBit % 2048

/-- Whether a double is finite, by its exponent field. -/
def isFinite (bits : UInt64) : Bool :=
  exponentField bits != 2047

/-- Whether a double carries a minus sign. -/
def isNegative (bits : UInt64) : Bool :=
  bits.toNat / 0x8000000000000000 == 1

/-- The value of a finite double, from its bits. -/
def Binary.ofBits (bits : UInt64) : Binary :=
  let field := exponentField bits
  let fraction := bits.toNat % leadingBit
  if field == 0 then ⟨fraction, -1074⟩
  else ⟨leadingBit + fraction, (field : Int) - 1075⟩

/-- The whole number that a finite double equals, if it equals one. -/
def Binary.whole? (b : Binary) : Option Nat :=
  if 0 ≤ b.exponent then some (b.significand * Nat.pow 2 b.exponent.toNat)
  else
    let unit := Nat.pow 2 (-b.exponent).toNat
    if b.significand % unit = 0 then some (b.significand / unit) else none

/-- `n * base ^ e` as a fraction of natural numbers. -/
def scaled (n base : Nat) (e : Int) : Nat × Nat :=
  if 0 ≤ e then (n * Nat.pow base e.toNat, 1) else (n, Nat.pow base (-e).toNat)

/-- The multiple of a power of ten nearest to a double among those that
read back as it, if there is one. -/
def Binary.onGrid? (b : Binary) (e : Int) : Option Nat :=
  let m := b.significand
  -- the ends of the interval and the value, in quarters of the last place
  let below := if m == leadingBit && -1074 < b.exponent then 1 else 2
  let value := 4 * m
  -- both sides of a comparison, brought to whole numbers
  let (tenUp, tenDown) := scaled 1 10 e
  let (twoUp, twoDown) := scaled 1 2 (b.exponent - 2)
  let point (k : Nat) := k * tenUp * twoDown
  let place (x : Nat) := x * twoUp * tenDown
  let inside (k : Nat) : Bool :=
    if m % 2 == 0 then
      place (value - below) ≤ point k && point k ≤ place (value + 2)
    else place (value - below) < point k && point k < place (value + 2)
  let k := place value / (tenUp * twoDown)
  let down := 0 < k && inside k
  let up := inside (k + 1)
  if down && up then
    let distanceDown := place value - point k
    let distanceUp := point (k + 1) - place value
    if distanceDown < distanceUp then some k
    else if distanceUp < distanceDown then some (k + 1)
    else if k % 2 == 0 then some k else some (k + 1)
  else if down then some k
  else if up then some (k + 1)
  else none

/-- The digits and the exponent of the shortest decimal that reads back
as a positive double: the first grid that has one, from the coarsest
that a double can lie on down to the finest. -/
def Binary.shortest (b : Binary) : Nat × Int :=
  let found := (List.range 640).findSome? fun (i : Nat) =>
    let e : Int := 310 - (i : Int)
    (b.onGrid? e).map fun k => (k, e)
  found.getD (b.significand, b.exponent)

end KbDocs.Decimal
