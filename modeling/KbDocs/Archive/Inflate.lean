/-
Expanding compressed data. The data is a row of blocks, each stored as
it is or written in two prefix codes, one for bytes and lengths and one
for distances; a length and a distance repeat what was written before.

A prefix code is kept as the symbols of each code length in turn. While
a code is read, only its distance from the first code of the same length
matters: it is a symbol of that length, or twice what lies beyond them
starts the search among the longer codes.

Data that ends too early is not an error in itself, so what was written
until then is kept.
-/
namespace KbDocs.Archive

/-- What can be wrong with compressed data. -/
inductive Corruption where
  | blockType
  | storedSize
  | tooManySymbols
  /-- The code for code lengths is no prefix code. -/
  | lengthsOfCodes
  /-- There is no code length to repeat, or too many are repeated. -/
  | repetition
  /-- A block has no code for its end. -/
  | noEnd
  | lengthCode
  | distanceCode
  | lengthSymbol
  | distanceSymbol
  /-- A distance leads to before the first byte. -/
  | distance
deriving DecidableEq

def Corruption.message : Corruption → String
  | blockType => "invalid block type"
  | storedSize => "invalid stored block lengths"
  | tooManySymbols => "too many length or distance symbols"
  | lengthsOfCodes => "invalid code lengths set"
  | repetition => "invalid bit length repeat"
  | noEnd => "invalid code -- missing end-of-block"
  | lengthCode => "invalid literal/lengths set"
  | distanceCode => "invalid distances set"
  | lengthSymbol => "invalid literal/length code"
  | distanceSymbol => "invalid distance code"
  | distance => "invalid distance too far back"

/-- Why expanding stops before the last block ends. -/
inductive Halt where
  /-- The data ends. -/
  | cutOff
  /-- The data is not what it should be. -/
  | corrupt (reason : Corruption)
deriving DecidableEq

/-- How far data has been expanded: the bits still to be read and the
bytes written. -/
structure Inflater where
  bits : List Bool
  written : Array UInt8 := #[]

/-- A step of expanding. What was written outlives a halt. -/
abbrev Inflate :=
  ExceptT Halt (StateM Inflater)

namespace Inflate

-- ================================================================ bits

/-- The bits of bytes, lowest first. -/
def bitsOf (bytes : List UInt8) : List Bool :=
  bytes.flatMap fun b => (List.range 8).map b.toNat.testBit

/-- The next bit. -/
def bit : Inflate Nat := do
  let s ← get
  match s.bits with
  | [] => throw .cutOff
  | b :: rest =>
      set { s with bits := rest }
      return b.toNat

/-- A number of some bits, lowest first. -/
def number : Nat → Inflate Nat
  | 0 => return 0
  | n + 1 => do
      let low ← bit
      return low + 2 * (← number n)

/-- Goes on to the next whole byte. -/
def alignToByte : Inflate Unit :=
  modify fun s => { s with bits := s.bits.drop (s.bits.length % 8) }

/-- One more byte. -/
def write (b : UInt8) : Inflate Unit :=
  modify fun s => { s with written := s.written.push b }

-- ======================================================== prefix codes

/-- A prefix code: its symbols by the length of their codes, from one bit
on. -/
abbrev PrefixCode :=
  List (List Nat)

/-- How many codes of the longest length are left over, in a code with
some numbers of symbols by length; nothing if there are too few. -/
def codesLeft : Nat → List Nat → Option Nat
  | left, [] => some left
  | left, n :: longer =>
      if 2 * left < n then none else codesLeft (2 * left - n) longer

/-- The prefix code that gives each symbol a code of a length, or none at
length zero. The codes must leave nothing over, except that a single
code of one bit may stand alone where that is allowed, and that there
may be no code at all; otherwise the data is corrupt for a reason. -/
def prefixCode (lengths : List Nat) (mayStandAlone : Bool) (reason : Corruption) :
    Inflate PrefixCode := do
  let longest := lengths.foldl max 0
  let symbols := (List.range lengths.length).zip lengths
  let code := (List.range (max longest 1)).map fun i =>
    (symbols.filter fun (_, l) => l == i + 1).map (·.1)
  match codesLeft 1 (code.map List.length) with
  | none => throw (.corrupt reason)
  | some left =>
      if left == 0 || longest == 0 || (longest == 1 && mayStandAlone) then
        return code
      else throw (.corrupt reason)

/-- The next symbol, where `place` is the place of the code read so far
behind the codes of its length. A code that no symbol has is corrupt for
a reason. -/
def symbolFrom (reason : Corruption) (place : Nat) : PrefixCode → Inflate Nat
  | [] => throw (.corrupt reason)
  | symbols :: longer => do
      let place := place + (← bit)
      match symbols[place]? with
      | some s => return s
      | none => symbolFrom reason (2 * (place - symbols.length)) longer

/-- The next symbol of a code. -/
def symbol (code : PrefixCode) (reason : Corruption) : Inflate Nat :=
  symbolFrom reason 0 code

-- ============================================================= repeats

/-- The least length of each length symbol, and the bits that count up
from it. -/
def lengthBases : List (Nat × Nat) :=
  [(3, 0), (4, 0), (5, 0), (6, 0), (7, 0), (8, 0), (9, 0), (10, 0), (11, 1),
    (13, 1), (15, 1), (17, 1), (19, 2), (23, 2), (27, 2), (31, 2), (35, 3),
    (43, 3), (51, 3), (59, 3), (67, 4), (83, 4), (99, 4), (115, 4), (131, 5),
    (163, 5), (195, 5), (227, 5), (258, 0)]

/-- The least distance of each distance symbol, and the bits that count
up from it. -/
def distanceBases : List (Nat × Nat) :=
  [(1, 0), (2, 0), (3, 0), (4, 0), (5, 1), (7, 1), (9, 2), (13, 2), (17, 3),
    (25, 3), (33, 4), (49, 4), (65, 5), (97, 5), (129, 6), (193, 6), (257, 7),
    (385, 7), (513, 8), (769, 8), (1025, 9), (1537, 9), (2049, 10), (3073, 10),
    (4097, 11), (6145, 11), (8193, 12), (12289, 12), (16385, 13), (24577, 13)]

/-- The number that a symbol and the bits behind it stand for. -/
def counted (bases : List (Nat × Nat)) (symbol : Nat) (reason : Corruption) :
    Inflate Nat := do
  match bases[symbol]? with
  | some (base, bits) => return base + (← number bits)
  | none => throw (.corrupt reason)

/-- Writes again what stands at a distance before the end, byte by byte,
so that a length beyond the distance goes on with bytes just written. -/
def copyBack (distance : Nat) : Nat → Inflate Unit
  | 0 => pure ()
  | n + 1 => do
      let written := (← get).written
      match written[written.size - distance]? with
      | some b =>
          write b
          copyBack distance n
      | none => throw (.corrupt .distance)

-- ============================================================== blocks

/-- The contents of a block in prefix codes, up to its end. -/
def codedBlock (lengths distances : PrefixCode) : Nat → Inflate Unit
  | 0 => throw .cutOff
  | bound + 1 => do
      let s ← symbol lengths .lengthSymbol
      if s < 256 then
        write s.toUInt8
        codedBlock lengths distances bound
      else if s == 256 then pure ()
      else
        let length ← counted lengthBases (s - 257) .lengthSymbol
        let far ← symbol distances .distanceSymbol
        let distance ← counted distanceBases far .distanceSymbol
        if (← get).written.size < distance then throw (.corrupt .distance)
        copyBack distance length
        codedBlock lengths distances bound

/-- The contents of a block stored as it is, of which only a part may be
there. -/
def storedBytes : Nat → Inflate Unit
  | 0 => pure ()
  | n + 1 => do
      write (← number 8).toUInt8
      storedBytes n

/-- A block stored as it is: its size, the complement of its size, and
its bytes. -/
def storedBlock : Inflate Unit := do
  alignToByte
  let size ← number 16
  let complement ← number 16
  if size + complement != 0xFFFF then throw (.corrupt .storedSize)
  storedBytes size

/-- The code lengths of the fixed code of bytes and lengths. -/
def fixedLengths : List Nat :=
  List.replicate 144 8 ++ List.replicate 112 9 ++ List.replicate 24 7
    ++ List.replicate 8 8

/-- The code lengths of the fixed code of distances. -/
def fixedDistances : List Nat :=
  List.replicate 32 5

/-- The order in which the lengths of the codes for code lengths are
given. -/
def lengthOrder : List Nat :=
  [16, 17, 18, 0, 8, 7, 9, 6, 10, 5, 11, 4, 12, 3, 13, 2, 14, 1, 15]

/-- Some numbers of three bits. -/
def threeBitNumbers : Nat → Inflate (List Nat)
  | 0 => return []
  | n + 1 => do
      let first ← number 3
      return first :: (← threeBitNumbers n)

/-- Code lengths up to a total, behind those known already: a length, a
repetition of the last one, or a run of zeros. -/
def codeLengths (code : PrefixCode) (total : Nat) :
    Nat → List Nat → Inflate (List Nat)
  | 0, _ => throw (.corrupt .repetition)
  | bound + 1, known => do
      if known.length == total then return known
      let s ← symbol code .lengthsOfCodes
      if s < 16 then codeLengths code total bound (known ++ [s])
      else
        let run ←
          if s == 16 then do
            let count ← number 2
            match known.getLast? with
            | some last => pure (List.replicate (3 + count) last)
            | none => throw (.corrupt .repetition)
          else if s == 17 then do
            let count ← number 3
            pure (List.replicate (3 + count) 0)
          else do
            let count ← number 7
            pure (List.replicate (11 + count) 0)
        if total < known.length + run.length then throw (.corrupt .repetition)
        codeLengths code total bound (known ++ run)

/-- The prefix codes at the start of a block that brings its own. A block
must have a code for its end. Where there is no code for code lengths,
every bit stands for no length. -/
def ownCodes : Inflate (PrefixCode × PrefixCode) := do
  let lengthCount := 257 + (← number 5)
  let distanceCount := 1 + (← number 5)
  let orderCount := 4 + (← number 4)
  if 286 < lengthCount || 30 < distanceCount then throw (.corrupt .tooManySymbols)
  let given := lengthOrder.zip (← threeBitNumbers orderCount)
  let order := (List.range 19).map fun s => (given.lookup s).getD 0
  let code ←
    if order.all (· == 0) then pure [[0, 0]]
    else prefixCode order false .lengthsOfCodes
  let total := lengthCount + distanceCount
  let all ← codeLengths code total (total + 1) []
  if all[256]? == some 0 then throw (.corrupt .noEnd)
  let lengths ← prefixCode (all.take lengthCount) true .lengthCode
  let distances ← prefixCode (all.drop lengthCount) true .distanceCode
  return (lengths, distances)

/-- Blocks up to the last. -/
def blocks : Nat → Inflate Unit
  | 0 => throw .cutOff
  | bound + 1 => do
      let isLast ← bit
      match ← number 2 with
      | 0 => storedBlock
      | 1 =>
          let lengths ← prefixCode fixedLengths false .lengthCode
          let distances ← prefixCode fixedDistances false .distanceCode
          codedBlock lengths distances ((← get).bits.length + 1)
      | 2 =>
          let (lengths, distances) ← ownCodes
          codedBlock lengths distances ((← get).bits.length + 1)
      | _ => throw (.corrupt .blockType)
      if isLast == 1 then pure () else blocks bound

end Inflate

/-- Expands compressed data: the bytes, and whether the last block was
reached. -/
def inflate (bytes : List UInt8) : Except Corruption (List UInt8 × Bool) :=
  let bits := Inflate.bitsOf bytes
  match (Inflate.blocks (bits.length + 1)).run { bits } with
  | (.ok (), s) => .ok (s.written.toList, true)
  | (.error .cutOff, s) => .ok (s.written.toList, false)
  | (.error (.corrupt reason), _) => .error reason

end KbDocs.Archive
