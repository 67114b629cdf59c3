/-!
# Checksums

The cyclic redundancy check of 32 bits, lowest bit first.
-/

namespace JobLog.Gzip

/-- The remainder behind one more bit, which is already added to it. -/
def checksumBit (sum : UInt32) : UInt32 :=
  if sum &&& 1 = 1 then (sum >>> 1) ^^^ 0xEDB88320 else sum >>> 1

/-- The remainder behind one more byte. -/
def checksumByte (sum : UInt32) (b : UInt8) : UInt32 :=
  (List.range 8).foldl (fun s _ => checksumBit s) (sum ^^^ b.toUInt32)

/-- The checksum of bytes. -/
def checksum (bytes : Array UInt8) : UInt32 := bytes.foldl checksumByte 0xFFFFFFFF ^^^ 0xFFFFFFFF

end JobLog.Gzip
