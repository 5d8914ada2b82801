/-!
# UTF-16 code units

`encode` spells a text in 16-bit units and `decode` reads units back; a surrogate that is not part
of a pair is read as U+FFFD, so `decode` is total.
-/

set_option autoImplicit false

namespace TypeAtlas.Text.Utf16

/-- A unit of the first half of a surrogate pair. -/
def isHigh (u : UInt16) : Bool := 0xD800 ≤ u && u ≤ 0xDBFF

/-- A unit of the second half of a surrogate pair. -/
def isLow (u : UInt16) : Bool := 0xDC00 ≤ u && u ≤ 0xDFFF

/-- The character U+FFFD, which stands for a surrogate without its partner. -/
def replacement : Char := '\uFFFD'

/-- The character above U+FFFF that a surrogate pair spells. -/
def pairChar (high low : UInt16) : Char :=
  Char.ofNat (0x10000 + (high.toNat - 0xD800) * 0x400 + (low.toNat - 0xDC00))

/-- The one or two units of a character. -/
def units (c : Char) : List UInt16 :=
  if c.toNat < 0x10000 then [UInt16.ofNat c.toNat]
  else
    let n := c.toNat - 0x10000
    [UInt16.ofNat (0xD800 + n / 0x400), UInt16.ofNat (0xDC00 + n % 0x400)]

/-- The units of a text. -/
def encode (text : List Char) : List UInt16 := text.flatMap units

/-- The text that units spell, unpaired surrogates replaced by U+FFFD. -/
def decode : List UInt16 → List Char
  | [] => []
  | u :: rest =>
    if isHigh u then
      match rest with
      | v :: after =>
        if isLow v then pairChar u v :: decode after else replacement :: decode (v :: after)
      | [] => [replacement]
    else if isLow u then replacement :: decode rest
    else Char.ofNat u.toNat :: decode rest

end TypeAtlas.Text.Utf16
