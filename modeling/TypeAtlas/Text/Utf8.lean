import TypeAtlas.Bytes

/-!
# UTF-8

A byte string is scanned into characters and ill-formed stretches. `decode` accepts byte strings
without such stretches; `decodeLossy` puts U+FFFD for each of them. A stretch is as long as it can
be while it still begins a well-formed character, and one byte where no character begins so.
-/

set_option autoImplicit false

namespace TypeAtlas.Text.Utf8

/-- What the first byte of a character says: how many bytes follow, the bounds of the next one, and
the bits of the character that the byte itself holds. -/
structure Lead where
  following : Nat
  low : UInt8
  high : UInt8
  bits : Nat

/-- Reads a first byte. The bounds leave out surrogates, characters above U+10FFFF, and characters
that a shorter sequence can spell. -/
def lead? (b : UInt8) : Option Lead :=
  if b < 0x80 then some ⟨0, 0x80, 0xBF, b.toNat⟩
  else if b < 0xC2 then none
  else if b < 0xE0 then some ⟨1, 0x80, 0xBF, b.toNat % 0x20⟩
  else if b < 0xF0 then
    let low : UInt8 := if b = 0xE0 then 0xA0 else 0x80
    let high : UInt8 := if b = 0xED then 0x9F else 0xBF
    some ⟨2, low, high, b.toNat % 0x10⟩
  else if b < 0xF5 then
    let low : UInt8 := if b = 0xF0 then 0x90 else 0x80
    let high : UInt8 := if b = 0xF4 then 0x8F else 0xBF
    some ⟨3, low, high, b.toNat % 0x08⟩
  else none

/-- Reads the bytes that follow a first byte, as far as they fit. Gives the number of the character,
if it is complete, and the bytes left. -/
def follow : Nat → UInt8 → UInt8 → Nat → Bytes → Option Nat × Bytes
  | 0, _, _, n, rest => (some n, rest)
  | _ + 1, _, _, _, [] => (none, [])
  | following + 1, low, high, n, b :: rest =>
    if low ≤ b ∧ b ≤ high then follow following 0x80 0xBF (n * 0x40 + b.toNat % 0x40) rest
    else (none, b :: rest)

theorem length_follow (following : Nat) (low high : UInt8) (n : Nat) (bytes : Bytes) :
    (follow following low high n bytes).2.length ≤ bytes.length := by
  induction following generalizing low high n bytes with
  | zero => simp [follow]
  | succ following ih =>
    cases bytes with
    | nil => simp [follow]
    | cons b rest =>
      simp only [follow]
      split
      · exact Nat.le_succ_of_le (ih _ _ _ rest)
      · exact Nat.le_refl _

/-- The characters of a byte string in order, with nothing for an ill-formed stretch. -/
def scan : Bytes → List (Option Char)
  | [] => []
  | b :: rest =>
    match lead? b with
    | none => none :: scan rest
    | some l =>
      let read := follow l.following l.low l.high l.bits rest
      read.1.map Char.ofNat :: scan read.2
termination_by bytes => bytes.length
decreasing_by
  · simp
  · exact Nat.lt_succ_of_le (length_follow ..)

/-- The text of a well-formed byte string. -/
def decode (bytes : Bytes) : Option String := ((scan bytes).mapM id).map String.ofList

/-- The text of a byte string, U+FFFD standing for each ill-formed stretch. -/
def decodeLossy (bytes : Bytes) : String :=
  String.ofList ((scan bytes).map fun c => c.getD '\uFFFD')

/-- The bytes of a text. -/
def encode (text : String) : Bytes := text.toList.flatMap String.utf8EncodeChar

end TypeAtlas.Text.Utf8
