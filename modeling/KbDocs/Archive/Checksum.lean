/-
The 32-bit cyclic redundancy check of archive members: the remainder of
the bytes, lowest bit first, by the polynomial 0xEDB88320.
-/
namespace KbDocs.Archive

/-- The remainder after one more bit. -/
def checksumBit (r : UInt32) : UInt32 :=
  if r &&& 1 == 1 then (r >>> 1) ^^^ 0xEDB88320 else r >>> 1

/-- The remainder after one more byte. The byte meets the lowest eight
bits only, and the others move down. -/
def checksumByte (r : UInt32) (b : UInt8) : UInt32 :=
  (r >>> 8) ^^^ (8).repeat checksumBit ((r ^^^ b.toUInt32) &&& 0xFF)

/-- The check value of some bytes. -/
def checksum (bytes : List UInt8) : UInt32 :=
  bytes.foldl checksumByte 0xFFFFFFFF ^^^ 0xFFFFFFFF

end KbDocs.Archive
