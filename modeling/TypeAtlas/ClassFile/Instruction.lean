import TypeAtlas.Bytes
import TypeAtlas.Fault

/-!
# The lengths of instructions

An instruction is an opcode and its operands. For most opcodes the number of operand bytes is
fixed; a switch starts with padding up to a multiple of four from the start of the code and states
the length of its table, and `wide` depends on the opcode that it modifies.
-/

set_option autoImplicit false

namespace TypeAtlas.ClassFile

/-- What follows an opcode. -/
inductive OperandShape where
  /-- A fixed number of bytes. -/
  | fixed (count : Nat)
  /-- Padding, a default, the lowest and the highest key, and four bytes for each key between. -/
  | tableSwitch
  /-- Padding, a default, a number of pairs, and eight bytes for each pair. -/
  | lookupSwitch
  /-- An opcode with widened operands. -/
  | wide
  /-- Nothing: there is no such opcode. -/
  | undefined
  deriving DecidableEq, Repr

/-- The shapes of the opcodes in ascending order: each entry holds from after the one before it up
to the opcode it names. -/
def operandShapes : List (UInt8 × OperandShape) :=
  [(0x0f, .fixed 0), (0x10, .fixed 1), (0x11, .fixed 2), (0x12, .fixed 1), (0x14, .fixed 2),
    (0x19, .fixed 1), (0x35, .fixed 0), (0x3a, .fixed 1), (0x83, .fixed 0), (0x84, .fixed 2),
    (0x98, .fixed 0), (0xa8, .fixed 2), (0xa9, .fixed 1), (0xaa, .tableSwitch),
    (0xab, .lookupSwitch), (0xb1, .fixed 0), (0xb8, .fixed 2), (0xba, .fixed 4), (0xbb, .fixed 2),
    (0xbc, .fixed 1), (0xbd, .fixed 2), (0xbf, .fixed 0), (0xc1, .fixed 2), (0xc3, .fixed 0),
    (0xc4, .wide), (0xc5, .fixed 3), (0xc7, .fixed 2), (0xc9, .fixed 4), (0xca, .fixed 0),
    (0xfd, .undefined), (0xff, .fixed 0)]

/-- What follows an opcode. -/
def operandShape (opcode : UInt8) : OperandShape :=
  match operandShapes.find? fun entry => opcode ≤ entry.1 with
  | some (_, shape) => shape
  | none => .undefined

/-- The fault of a code body that breaks off, or whose switches make no sense. -/
def malformedCode {α : Type} : Except Fault α := .error (.malformedAttribute "Code")

/-- The signed word in the four bytes from a position on. -/
def signedWordAt (position : Nat) (bytes : Bytes) : Except Fault Int :=
  match splitExactly 4 (bytes.drop position) with
  | some (word, _) => .ok (UInt32.ofNat (ofBigEndian word)).toInt32.toInt
  | none => malformedCode

/-- The opcode that increments a local variable. -/
def iinc : UInt8 := 0x84

/-- The number of padding bytes after a switch opcode at `pc`. -/
def switchPadding (pc : Nat) : Nat := 3 - pc % 4

/-- The number of operand bytes of the instruction at `pc`, given what follows its opcode. -/
def operandLength (pc : Nat) (opcode : UInt8) (operands : Bytes) : Except Fault Nat :=
  match operandShape opcode with
  | .fixed count => .ok count
  | .tableSwitch => do
    let padding := switchPadding pc
    let low ← signedWordAt (padding + 4) operands
    let high ← signedWordAt (padding + 8) operands
    if high < low then malformedCode
    else return padding + 12 + (high - low + 1).toNat * 4
  | .lookupSwitch => do
    let padding := switchPadding pc
    let pairs ← signedWordAt (padding + 4) operands
    if pairs < 0 then malformedCode else return padding + 8 + pairs.toNat * 8
  | .wide =>
    match operands with
    | [] => malformedCode
    | modified :: _ => .ok (if modified = iinc then 5 else 3)
  | .undefined => .error (.unknownOpcode opcode pc)

end TypeAtlas.ClassFile
