import TypeAtlas.Bytes
import TypeAtlas.Fault

/-!
# Reading from a byte string

A `Reader` consumes bytes from the front of a `Cursor` and fails with a `Fault`. A cursor knows its
absolute position, so a fault met inside an attribute body still points into the whole file.

All readers are built from `take`, `fail` and the monad operations; only `expectEnd` looks at
whether bytes are left, and only `enclosed` changes what counts as the end.
-/

set_option autoImplicit false

namespace TypeAtlas.ClassFile

/-- The unread part of an input, with its absolute position. -/
structure Cursor where
  offset : Nat
  bytes : Bytes
  deriving DecidableEq, Repr

/-- Reads a value off the front of the input. -/
abbrev Reader (α : Type) := StateT Cursor (Except Fault) α

namespace Reader

variable {α β : Type}

/-- Rejects the input. -/
def fail (fault : Fault) : Reader α := fun _ => .error fault

/-- The value of a computation that reads nothing. -/
def lift (result : Except Fault α) : Reader α := fun cursor =>
  match result with
  | .ok value => .ok (value, cursor)
  | .error fault => .error fault

/-- The next `n` bytes. -/
def take (n : Nat) : Reader Bytes := fun cursor =>
  match splitExactly n cursor.bytes with
  | some (front, rest) => .ok (front, ⟨cursor.offset + n, rest⟩)
  | none => .error (.unexpectedEnd cursor.offset (n - cursor.bytes.length))

/-- The number written in the next `n` bytes. -/
def number (n : Nat) : Reader Nat := ofBigEndian <$> take n

/-- The next byte. -/
def u1 : Reader UInt8 := UInt8.ofNat <$> number 1

/-- The next two bytes. -/
def u2 : Reader UInt16 := UInt16.ofNat <$> number 2

/-- The next four bytes. -/
def u4 : Reader UInt32 := UInt32.ofNat <$> number 4

/-- The next eight bytes, read as two words of four, the upper one first. -/
def u8 : Reader UInt64 := do
  let high ← number 4
  let low ← number 4
  return UInt64.ofNat (high * 0x100000000 + low)

/-- Reads one value after another, a given number of times. -/
def times : Nat → Reader α → Reader (List α)
  | 0, _ => pure []
  | n + 1, item => do
    let first ← item
    let others ← times n item
    return first :: others

/-- A table: its length in two bytes, then its entries. -/
def table (item : Reader α) : Reader (List α) := do
  let count ← u2
  times count.toNat item

/-- Requires that no bytes are left. -/
def expectEnd : Reader Unit := fun cursor =>
  match cursor.bytes with
  | [] => .ok ((), cursor)
  | _ :: _ => .error (.trailingBytes cursor.offset cursor.bytes.length)

/-- Reads a body of known bytes, which starts at the given position, to its end. -/
def enclosed (start : Nat) (body : Bytes) (content : Reader α) : Except Fault α := do
  let (value, rest) ← content ⟨start, body⟩
  let _ ← expectEnd rest
  return value

end Reader

/-- Reads a value off the front of a class file; a failure names the section it happened in. -/
abbrev FileReader (α : Type) := StateT Cursor (Except Rejection) α

/-- Reads a section: its faults are located at the place where it starts. -/
def Reader.inSection {α : Type} (part : Section) (content : Reader α) : FileReader α :=
  fun cursor =>
    match content cursor with
    | .ok result => .ok result
    | .error fault => .error ⟨fault, part, cursor.offset⟩

end TypeAtlas.ClassFile
