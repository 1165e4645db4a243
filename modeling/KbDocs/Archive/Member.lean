/-
Reading a member of an archive. In front of its data, a member repeats
its name; the sizes and the checksum are those of the directory.
-/
import KbDocs.Archive.Checksum
import KbDocs.Archive.Directory

namespace KbDocs.Archive

-- ========================================================= description

/-- The names of packing methods. -/
def methodNames : List (Nat × String) :=
  [(0, "store"), (1, "shrink"), (2, "reduce"), (3, "reduce"), (4, "reduce"),
    (5, "reduce"), (6, "implode"), (7, "tokenize"), (8, "deflate"),
    (9, "deflate64"), (10, "implode"), (12, "bzip2"), (14, "lzma"),
    (18, "terse"), (19, "lz77"), (97, "wavpack"), (98, "ppmd")]

/-- The letter of a type of file, by the upper bits of its mode. -/
def fileTypeLetter (mode : Nat) : Char :=
  match mode / 0x1000 with
  | 1 => 'p'
  | 2 => 'c'
  | 4 => 'd'
  | 6 => 'b'
  | 8 => '-'
  | 10 => 'l'
  | 12 => 's'
  | _ => '?'

/-- The three letters of the permissions for one group of users, with the
letter for a special bit that goes with them. -/
def permissionLetters (bits : Nat) (special : Bool) (letter : Char) : List Char :=
  [if bits.testBit 2 then 'r' else '-',
    if bits.testBit 1 then 'w' else '-',
    if special then (if bits.testBit 0 then letter else letter.toUpper)
    else if bits.testBit 0 then 'x' else '-']

/-- A file mode in letters. -/
def modeLetters (mode : Nat) : String :=
  String.ofList (fileTypeLetter mode ::
    permissionLetters (mode / 64 % 8) (mode.testBit 11) 's'
    ++ permissionLetters (mode / 8 % 8) (mode.testBit 10) 's'
    ++ permissionLetters (mode % 8) (mode.testBit 9) 't')

/-- A member by its name and what is unusual about it. -/
def Member.describe (m : Member) : String :=
  let isFile := !m.isDirectory
  let mode := m.attributes / 0x10000
  let low := m.attributes % 0x10000
  "<ZipInfo filename=" ++ Text.quoted m.name
    ++ (if m.method == 0 then ""
      else " compress_type=" ++ (methodNames.lookup m.method).getD m.method.repr)
    ++ (if mode == 0 then "" else " filemode=" ++ Text.quoted (modeLetters mode))
    ++ (if low == 0 then ""
      else " external_attr=0x" ++ String.ofList (Nat.toDigits 16 low))
    ++ (if isFile || m.size != 0 then " file_size=" ++ m.size.repr else "")
    ++ (if (isFile || m.packedSize != 0) && (m.method != 0 || m.size != m.packedSize)
      then " compress_size=" ++ m.packedSize.repr else "")
    ++ ">"

-- ============================================================= reading

/-- Where the data of a member starts, after the checks of what stands
before it. -/
def Member.dataOffset (m : Member) (bytes : List UInt8) : Except ArchiveFault Nat := do
  if m.offset < 0 then throw .beforeStart
  let start := m.offset.toNat
  let header := slice bytes start 30
  if header.length != 30 then throw .headerCutOff
  if slice header 0 4 != mark 3 4 then throw .headerMagic
  let nameSize := field header 26 2
  let stored := slice bytes (start + 30) nameSize
  if m.flags.testBit 5 then throw .patchedData
  if m.flags.testBit 6 then throw .strongEncryption
  let name ← nameOf (field header 6 2) stored
  if name != m.storedName then throw (.nameMismatch m.storedName stored)
  let dataStart := min (start + 30 + nameSize + field header 28 2) bytes.length
  if m.limit < dataStart + m.packedSize then throw (.overlap m.storedName)
  if m.flags.testBit 0 then throw (.encrypted m.describe)
  return dataStart

/-- The contents of packed data, and whether they are complete. -/
abbrev Unpacker :=
  List UInt8 → Except ArchiveFault (List UInt8 × Bool)

/-- Unpackers by the number of the packing method. -/
abbrev Unpackers :=
  Nat → Option Unpacker

/-- No unpackers besides those that there always are. -/
def Unpackers.none : Unpackers :=
  fun _ => .none

/-- The unpacker of a packing method. Two methods are known here, and there
may be others. -/
def unpacker? (others : Unpackers) : Unpackers
  | 0 => some fun data => .ok (data, false)
  | 8 => some fun data => (inflate data).mapError .corruptData
  | method => others method

/-- The contents of a member of an archive. They are cut to the size that
the directory gives, and their checksum must be the one it gives. -/
def Member.read (m : Member) (bytes : List UInt8) (others : Unpackers := .none) :
    Except ArchiveFault (List UInt8) := do
  let start ← m.dataOffset bytes
  let some unpack := unpacker? others m.method | throw .unknownMethod
  let packed := slice bytes start m.packedSize
  if packed.isEmpty && 0 < m.packedSize then throw .dataCutOff
  let (contents, isComplete) ← unpack packed
  if !isComplete && packed.length < m.packedSize && contents.length < m.size then
    throw .dataCutOff
  let contents := contents.take m.size
  if Archive.checksum contents != m.checksum then throw (.wrongChecksum m.name)
  return contents

end KbDocs.Archive
