/-!
# Byte strings and big-endian words

Every multi-byte number of a class file is big-endian. `toBigEndian` and `ofBigEndian` are the two
directions for any width; `ofBigEndian_toBigEndian` says that reading undoes writing up to the
width of the word.
-/

set_option autoImplicit false

namespace TypeAtlas

/-- A byte string, in order. -/
abbrev Bytes := List UInt8

/-- The last `width` bytes of a number, the most significant one first. -/
def toBigEndian : Nat → Nat → Bytes
  | 0, _ => []
  | width + 1, n => toBigEndian width (n / 256) ++ [UInt8.ofNat n]

/-- The number written by a byte string, the first byte being the most significant one. -/
def ofBigEndian (bytes : Bytes) : Nat :=
  bytes.foldl (fun n b => n * 256 + b.toNat) 0

/-- Two bytes for a 16-bit word. -/
def word16 (n : UInt16) : Bytes := toBigEndian 2 n.toNat

/-- Four bytes for a 32-bit word. -/
def word32 (n : UInt32) : Bytes := toBigEndian 4 n.toNat

/-- Eight bytes for a 64-bit word. -/
def word64 (n : UInt64) : Bytes := toBigEndian 8 n.toNat

/-- A length as a 16-bit word; only its low sixteen bits are kept. -/
def count16 (n : Nat) : Bytes := word16 (UInt16.ofNat n)

/-- A length as a 32-bit word; only its low thirty-two bits are kept. -/
def count32 (n : Nat) : Bytes := word32 (UInt32.ofNat n)

/-- Takes exactly `n` bytes off the front, or nothing if there are fewer. -/
def splitExactly : Nat → Bytes → Option (Bytes × Bytes)
  | 0, bytes => some ([], bytes)
  | _ + 1, [] => none
  | n + 1, b :: bytes =>
    match splitExactly n bytes with
    | some (front, rest) => some (b :: front, rest)
    | none => none

/-! ## Laws -/

@[simp] theorem length_toBigEndian (width n : Nat) : (toBigEndian width n).length = width := by
  induction width generalizing n with
  | zero => rfl
  | succ width ih => simp [toBigEndian, ih]

theorem ofBigEndian_append (front : Bytes) (b : UInt8) :
    ofBigEndian (front ++ [b]) = ofBigEndian front * 256 + b.toNat := by
  simp [ofBigEndian]

theorem ofBigEndian_toBigEndian (width n : Nat) :
    ofBigEndian (toBigEndian width n) = n % Nat.pow 256 width := by
  induction width generalizing n with
  | zero => exact (Nat.mod_one n).symm
  | succ width ih =>
    have low : (UInt8.ofNat n).toNat = n % 256 := by simp
    have power : Nat.pow 256 (width + 1) = 256 * Nat.pow 256 width := Nat.mul_comm _ _
    rw [toBigEndian, ofBigEndian_append, ih, low, power, Nat.mod_mul]
    omega

theorem splitExactly_eq (n : Nat) (bytes : Bytes) :
    splitExactly n bytes =
      if n ≤ bytes.length then some (bytes.take n, bytes.drop n) else none := by
  induction n generalizing bytes with
  | zero => simp [splitExactly]
  | succ n ih =>
    cases bytes with
    | nil => simp [splitExactly]
    | cons b bytes =>
      simp only [splitExactly, ih, List.length_cons, Nat.add_le_add_iff_right]
      by_cases h : n ≤ bytes.length <;> simp [h]

theorem length_splitExactly {n : Nat} {bytes front rest : Bytes}
    (h : splitExactly n bytes = some (front, rest)) : rest.length ≤ bytes.length := by
  rw [splitExactly_eq] at h
  split at h
  · obtain ⟨-, rfl⟩ := Prod.mk.inj (Option.some.inj h)
    exact (List.drop_sublist n bytes).length_le
  · exact absurd h (by simp)

end TypeAtlas
