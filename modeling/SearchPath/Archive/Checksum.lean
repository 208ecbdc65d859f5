/-!
# Checksums

The checksum of an archive entry is a cyclic redundancy check of 32 bits: the octets, lowest bit
first, divided by a fixed polynomial, with the register inverted before and after.
-/

namespace SearchPath.Archive

/-- The divisor, lowest bit first. -/
def polynomial : UInt32 := 0xEDB88320

def checkBit (register : UInt32) : UInt32 :=
  if register &&& 1 = 1 then (register >>> 1) ^^^ polynomial else register >>> 1

def checkOctet (register : UInt32) (b : UInt8) : UInt32 :=
  Nat.repeat checkBit 8 (register ^^^ b.toUInt32)

def checksum (bytes : List UInt8) : UInt32 :=
  ~~~ bytes.foldl checkOctet 0xFFFFFFFF

end SearchPath.Archive
