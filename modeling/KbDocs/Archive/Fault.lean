/-
What can be wrong with an archive. Damage is told apart from contents
that are intact but cannot be read here.
-/
import KbDocs.Archive.Inflate
import KbDocs.Text.Utf8

namespace KbDocs.Archive

/-- Why an archive, or a member of one, cannot be read. -/
inductive ArchiveFault where
  /-- There is no record of an archive's end. -/
  | notArchive
  | spansDisks
  | directoryOffset
  | directoryCutOff
  | directoryMagic
  /-- An extra field, by its identifier and size, ends too early. -/
  | extraField (id size : Nat)
  /-- A large number is announced and not given. -/
  | largeField (field : String)
  | headerCutOff
  | headerMagic
  /-- The directory and the member itself give different names. -/
  | nameMismatch (name : String) (header : List UInt8)
  /-- The data of a member reaches into what stands behind it. -/
  | overlap (name : String)
  | wrongChecksum (name : String)
  /-- A name is not in the encoding that it claims. -/
  | undecodableName (fault : Text.Utf8Fault)
  /-- A newer version is needed, by its number in tenths. -/
  | version (tenths : Nat)
  | patchedData
  | strongEncryption
  | unknownMethod
  /-- A password is needed for a member, given by its description. -/
  | encrypted (description : String)
  /-- Compressed data is corrupt. -/
  | corruptData (reason : Corruption)
  /-- So is data packed in another way, in the words of its unpacker. -/
  | foreignData (message : String)
  /-- The archive ends within a member. -/
  | dataCutOff
  /-- A member starts before the archive. -/
  | beforeStart
deriving DecidableEq

namespace ArchiveFault

/-- Whether a fault is damage to the archive. -/
def isDamage : ArchiveFault → Bool
  | undecodableName _ => false
  | version _ => false
  | patchedData => false
  | strongEncryption => false
  | unknownMethod => false
  | encrypted _ => false
  | corruptData _ => false
  | foreignData _ => false
  | dataCutOff => false
  | beforeStart => false
  | _ => true

def message : ArchiveFault → String
  | notArchive => "File is not a zip file"
  | spansDisks => "zipfiles that span multiple disks are not supported"
  | directoryOffset => "Bad offset for central directory"
  | directoryCutOff => "Truncated central directory"
  | directoryMagic => "Bad magic number for central directory"
  | extraField id size =>
      "Corrupt extra field " ++ String.ofList (Text.hexPadded 4 id)
        ++ " (size=" ++ size.repr ++ ")"
  | largeField field => "Corrupt zip64 extra field. " ++ field ++ " not found."
  | headerCutOff => "Truncated file header"
  | headerMagic => "Bad magic number for file header"
  | nameMismatch name header =>
      "File name in directory " ++ Text.quoted name ++ " and header "
        ++ Text.quotedBytes header ++ " differ."
  | overlap name => "Overlapped entries: " ++ Text.quoted name ++ " (possible zip bomb)"
  | wrongChecksum name => "Bad CRC-32 for file " ++ Text.quoted name
  | undecodableName fault => fault.message
  | version tenths =>
      "zip file version " ++ (tenths / 10).repr ++ "." ++ (tenths % 10).repr
  | patchedData => "compressed patched data (flag bit 5)"
  | strongEncryption => "strong encryption (flag bit 6)"
  | unknownMethod => "That compression method is not supported"
  | encrypted description =>
      "File " ++ description ++ " is encrypted, password required for extraction"
  | corruptData reason =>
      "Error -3 while decompressing data: " ++ reason.message
  | foreignData message => message
  | dataCutOff => ""
  | beforeStart => "[Errno 22] Invalid argument"

end ArchiveFault

end KbDocs.Archive
