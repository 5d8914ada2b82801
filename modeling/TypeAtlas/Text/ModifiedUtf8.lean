import TypeAtlas.Bytes
import TypeAtlas.Text.Utf16

/-!
# Modified UTF-8

The text constants of a class file are UTF-16 units, each written in one, two or three bytes. The
unit zero takes two bytes, so no byte of the encoding is zero, and a character above U+FFFF takes
six, three for each half of its surrogate pair.

`decode` accepts every splitting into groups of the three forms, also one that spends more bytes
on a unit than `encode` would.
-/

set_option autoImplicit false

namespace TypeAtlas.Text.ModifiedUtf8

/-- A byte that stands for a character on its own: `01` to `7F`. -/
def isPlain (b : UInt8) : Bool := 0x01 ≤ b && b ≤ 0x7F

/-- The first byte of a group of two. -/
def leadsTwo (b : UInt8) : Bool := 0xC0 ≤ b && b ≤ 0xDF

/-- The first byte of a group of three. -/
def leadsThree (b : UInt8) : Bool := 0xE0 ≤ b && b ≤ 0xEF

/-- A byte that continues a group. -/
def continues (b : UInt8) : Bool := 0x80 ≤ b && b ≤ 0xBF

/-- The unit of a group of two: five bits and six bits. -/
def unitOfTwo (b c : UInt8) : UInt16 :=
  UInt16.ofNat (b.toNat % 0x20 * 0x40 + c.toNat % 0x40)

/-- The unit of a group of three: four bits and twice six bits. -/
def unitOfThree (b c d : UInt8) : UInt16 :=
  UInt16.ofNat (b.toNat % 0x10 * 0x1000 + c.toNat % 0x40 * 0x40 + d.toNat % 0x40)

/-- The units that a byte string spells, if it splits into groups. -/
def decodeUnits : Bytes → Option (List UInt16)
  | [] => some []
  | b :: rest =>
    if isPlain b then (decodeUnits rest).map (b.toUInt16 :: ·)
    else if leadsTwo b then
      match rest with
      | c :: after =>
        if continues c then (decodeUnits after).map (unitOfTwo b c :: ·) else none
      | [] => none
    else if leadsThree b then
      match rest with
      | c :: d :: after =>
        if continues c && continues d then (decodeUnits after).map (unitOfThree b c d :: ·)
        else none
      | _ => none
    else none

/-- The text of a byte string. Bytes that are all plain are their own characters; anything else is
read as units first. -/
def decode (bytes : Bytes) : Option String :=
  if bytes.all isPlain then some (String.ofList (bytes.map fun b => Char.ofNat b.toNat))
  else (decodeUnits bytes).map fun units => String.ofList (Utf16.decode units)

/-- The shortest group for a unit, except that zero takes two bytes. -/
def encodeUnit (u : UInt16) : Bytes :=
  let n := u.toNat
  if 0x01 ≤ n ∧ n ≤ 0x7F then [UInt8.ofNat n]
  else if n ≤ 0x7FF then [UInt8.ofNat (0xC0 + n / 0x40), UInt8.ofNat (0x80 + n % 0x40)]
  else
    [UInt8.ofNat (0xE0 + n / 0x1000), UInt8.ofNat (0x80 + n / 0x40 % 0x40),
      UInt8.ofNat (0x80 + n % 0x40)]

/-- The bytes of a text. -/
def encode (text : String) : Bytes := (Utf16.encode text.toList).flatMap encodeUnit

end TypeAtlas.Text.ModifiedUtf8
