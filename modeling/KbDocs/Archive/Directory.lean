/-
The directory of an archive. It stands at the end, before a record that
gives its size and where it starts; that record is found from the end of
the file, behind which a comment may stand. Where the archive itself
starts is not known: everything is counted from the record, so that
anything may stand before the archive.

All numbers are written lowest byte first.
-/
import KbDocs.Archive.Fault
import KbDocs.Text.CodePage

namespace KbDocs.Archive

-- ============================================================== fields

/-- A number, lowest byte first. -/
def littleEndian (bytes : List UInt8) : Nat :=
  bytes.foldr (fun b n => b.toNat + 256 * n) 0

/-- Some bytes from an offset on, as far as there are any. -/
def slice (bytes : List UInt8) (offset size : Nat) : List UInt8 :=
  (bytes.drop offset).take size

/-- The number in some bytes from an offset on. -/
def field (bytes : List UInt8) (offset size : Nat) : Nat :=
  littleEndian (slice bytes offset size)

/-- The mark of a record: two letters and two numbers. -/
def mark (kind part : UInt8) : List UInt8 :=
  [0x50, 0x4B, kind, part]

-- ========================================================== end record

/-- What the record at the end of an archive says. -/
structure EndRecord where
  /-- Where the record stands. -/
  location : Nat
  /-- The size of the directory in bytes. -/
  directorySize : Nat
  /-- Where the directory starts, counted from the start of the
  archive. -/
  directoryOffset : Nat
  /-- The size of what stands between the directory and the record. -/
  gap : Nat := 0

/-- The size of the record. -/
def endRecordSize : Nat :=
  22

/-- The record at a location, for archives of the usual size. -/
def EndRecord.at (bytes : List UInt8) (location : Nat) : EndRecord :=
  let record := slice bytes location endRecordSize
  { location
    directorySize := field record 12 4
    directoryOffset := field record 16 4 }

/-- The last location of some bytes in others, below a limit. -/
def lastMatch? (pattern bytes : List UInt8) : Nat → Option Nat
  | 0 => none
  | limit + 1 =>
      if slice bytes limit pattern.length == pattern then some limit
      else lastMatch? pattern bytes limit

/-- Where the record at the end stands: at the very end if it has no
comment, otherwise at the last mark within the longest comment. -/
def endLocation? (bytes : List UInt8) : Option Nat :=
  let size := bytes.length
  let atEnd := size - endRecordSize
  if size < endRecordSize then none
  else if slice bytes atEnd 4 == mark 5 6 && slice bytes (size - 2) 2 == [0, 0] then
    some atEnd
  else
    let searched := bytes.drop (size - 65536 - endRecordSize)
    match lastMatch? (mark 5 6) searched searched.length with
    | none => none
    | some i =>
        if searched.length < i + endRecordSize then none
        else some (size - searched.length + i)

/-- The record with the larger numbers of an archive beyond the usual
size, where such an archive says so in front of it. -/
def EndRecord.enlarge (bytes : List UInt8) (r : EndRecord) :
    Except ArchiveFault EndRecord :=
  let locator := slice bytes (r.location - 20) 20
  if r.location < 20 || slice locator 0 4 != mark 6 7 then .ok r
  else if field locator 4 4 != 0 || 1 < field locator 16 4 then .error .spansDisks
  else if r.location < 76 then .error .notArchive
  else
    let record := slice bytes (r.location - 76) 56
    if slice record 0 4 != mark 6 6 then .ok r
    else
      .ok { r with
        directorySize := field record 40 8
        directoryOffset := field record 48 8
        gap := 76 }

-- ============================================================= members

/-- A member of an archive, by its entry in the directory. -/
structure Member where
  /-- The name as it is stored. -/
  storedName : String
  flags : Nat
  method : Nat
  checksum : UInt32
  packedSize : Nat
  size : Nat
  attributes : Nat
  /-- Where the member stands in the file. -/
  offset : Int
  /-- Where its data must have ended. -/
  limit : Int

/-- The name, which a null character ends. -/
def Member.name (m : Member) : String :=
  String.ofList (m.storedName.toList.takeWhile (· != '\x00'))

/-- Whether a member is a directory. -/
def Member.isDirectory (m : Member) : Bool :=
  m.name.toList.getLast? == some '/'

/-- The name that some bytes stand for: in UTF-8 where a flag says so,
otherwise in code page 437. -/
def nameOf (flags : Nat) (bytes : List UInt8) : Except ArchiveFault String :=
  if flags.testBit 11 then
    match Text.utf8Fault? bytes with
    | some fault => .error (.undecodableName fault)
    | none => .ok ((String.fromUTF8? ⟨bytes.toArray⟩).getD "")
  else .ok (String.ofList (bytes.map Text.charOf437))

/-- The sizes and the offset of a member. -/
structure Extent where
  size : Nat
  packedSize : Nat
  offset : Nat

/-- The greatest number in four bytes, which stands for one that is given
elsewhere. -/
def elsewhere : Nat :=
  0xFFFFFFFF

/-- A number of eight bytes in place of one that is given elsewhere, and
the bytes behind it. -/
def takeLarge (what : String) (data : List UInt8) (n : Nat) :
    Except ArchiveFault (Nat × List UInt8) :=
  if n != elsewhere then .ok (n, data)
  else if data.length < 8 then .error (.largeField what)
  else .ok (field data 0 8, data.drop 8)

/-- Sizes and offset, with those that are given in an extra field. -/
def Extent.enlarge (x : Extent) (data : List UInt8) : Except ArchiveFault Extent := do
  let (size, data) ← takeLarge "File size" data x.size
  let (packedSize, data) ← takeLarge "Compress size" data x.packedSize
  let (offset, _) ← takeLarge "Header offset" data x.offset
  return ⟨size, packedSize, offset⟩

/-- Sizes and offset after all extra fields, which have an identifier and
a size each. -/
def Extent.afterExtra (x : Extent) (extra : List UInt8) : Nat → Except ArchiveFault Extent
  | 0 => .ok x
  | bound + 1 => do
      if extra.length < 4 then return x
      let id := field extra 0 2
      let size := field extra 2 2
      if extra.length < size + 4 then throw (.extraField id size)
      let x ← if id == 1 then x.enlarge (slice extra 4 size) else pure x
      x.afterExtra (extra.drop (size + 4)) bound

/-- The newest version that members can be read of, in tenths. -/
def newestVersion : Nat :=
  63

/-- The members in a directory of a size, of which some bytes were read;
`shift` is where the archive starts in the file. -/
def membersFrom (shift : Int) (size : Nat) :
    Nat → Nat → List UInt8 → Except ArchiveFault (List Member)
  | 0, _, _ => .ok []
  | bound + 1, done, bytes => do
      if size ≤ done then return []
      if bytes.length < 46 then throw .directoryCutOff
      if slice bytes 0 4 != mark 1 2 then throw .directoryMagic
      let nameSize := field bytes 28 2
      let extraSize := field bytes 30 2
      let commentSize := field bytes 32 2
      let flags := field bytes 8 2
      let name ← nameOf flags (slice bytes 46 nameSize)
      let version := field bytes 6 1
      if newestVersion < version then throw (.version version)
      let extra := slice bytes (46 + nameSize) extraSize
      let extent : Extent := ⟨field bytes 24 4, field bytes 20 4, field bytes 42 4⟩
      let extent ← extent.afterExtra extra (extra.length + 1)
      let member : Member :=
        { storedName := name
          flags
          method := field bytes 10 2
          checksum := (field bytes 16 4).toUInt32
          packedSize := extent.packedSize
          size := extent.size
          attributes := field bytes 38 4
          offset := extent.offset + shift
          limit := 0 }
      let whole := 46 + nameSize + extraSize + commentSize
      return member :: (← membersFrom shift size bound (done + whole) (bytes.drop whole))

/-- Where the data of a member must have ended: where the next member in the
file starts, or else the directory. Of members that start at one place, only
the one that the directory names first has any room. -/
def limitOf (directory : Int) (ms named : List Member) (m : Member) : Int :=
  if named.any (·.offset == m.offset) then m.offset
  else ((ms.map (·.offset)).filter (m.offset < ·)).min?.getD directory

/-- The members of a directory with the limits of their data. -/
def withLimits (directory : Int) (ms : List Member) : List Member :=
  ms.mapIdx fun i m => { m with limit := limitOf directory ms (ms.take i) m }

/-- The members of an archive, in the order of its directory. -/
def members (bytes : List UInt8) : Except ArchiveFault (List Member) := do
  let location ← match endLocation? bytes with
    | some l => pure l
    | none => throw .notArchive
  let r ← (EndRecord.at bytes location).enlarge bytes
  let start : Int := (r.location : Int) - r.directorySize - r.gap
  if start < 0 then throw .directoryOffset
  let directory := slice bytes start.toNat r.directorySize
  let ms ← membersFrom (start - r.directoryOffset) r.directorySize (directory.length + 1) 0
    directory
  return withLimits start ms

end KbDocs.Archive
