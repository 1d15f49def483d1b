/-!
# Checksums

The 32-bit cyclic redundancy check of ISO 3309, with the bits of a byte taken from the lowest one.
-/

namespace BuiltinAtlas.Archive

/-- Shift out some bits. Each one that is set adds the polynomial. -/
def shiftOut : Nat → UInt32 → UInt32
  | 0, register => register
  | n + 1, register =>
    shiftOut n (if register &&& 1 = 1 then (register >>> 1) ^^^ 0xEDB88320 else register >>> 1)

/-- The checksum of some bytes. -/
def checksum (bytes : ByteArray) : UInt32 :=
  ~~~ bytes.foldl (fun register b ↦ shiftOut 8 (register ^^^ b.toUInt32)) 0xFFFFFFFF

end BuiltinAtlas.Archive
