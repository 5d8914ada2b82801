import TypeAtlas.Bytes

/-!
# The cyclic redundancy check of archives

The checksum of a byte string is the remainder of a division of polynomials over two elements, by
the polynomial whose coefficients `0xEDB88320` lists in reverse, with all bits inverted before and
after.
-/

set_option autoImplicit false

namespace TypeAtlas.Archive

/-- Divides by the polynomial for one bit. -/
def crcBit (r : UInt32) : UInt32 :=
  if r &&& 1 = 1 then (r >>> 1) ^^^ 0xEDB88320 else r >>> 1

/-- Takes a byte into a remainder. -/
def crcByte (r : UInt32) (b : UInt8) : UInt32 :=
  (List.range 8).foldl (fun r _ => crcBit r) (r ^^^ b.toUInt32)

/-- The checksum of a byte string. -/
def crc32 (bytes : Bytes) : UInt32 := bytes.foldl crcByte 0xFFFFFFFF ^^^ 0xFFFFFFFF

/-- The remainder after two byte strings follows from the one after the first. -/
theorem foldl_crcByte_append (r : UInt32) (front back : Bytes) :
    (front ++ back).foldl crcByte r = back.foldl crcByte (front.foldl crcByte r) :=
  List.foldl_append

end TypeAtlas.Archive
