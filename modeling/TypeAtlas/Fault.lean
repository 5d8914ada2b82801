/-!
# Why class data is rejected

`Fault` lists the causes. A fault met inside a class file is also given the section it happened in
and the offset at which that section starts (`Rejection`).
-/

set_option autoImplicit false

namespace TypeAtlas

/-- A cause for which class data is rejected. -/
inductive Fault where
  /-- The input ends at `offset` where `needed` more bytes are expected. -/
  | unexpectedEnd (offset needed : Nat)
  /-- The file starts with another number than the one that marks class files. -/
  | wrongMagic (magic : UInt32)
  /-- No constant is stored at this pool index. -/
  | noConstant (index : UInt16)
  /-- No kind of constant has this tag. -/
  | unknownTag (tag : UInt8)
  /-- The constant at this pool index is of another kind than its use asks for. -/
  | wrongConstant (index : UInt16) (expected found : String)
  /-- A text constant does not decode. -/
  | malformedText
  /-- A text is no type descriptor. -/
  | malformedDescriptor (text : String)
  /-- No instruction has this opcode. -/
  | unknownOpcode (opcode : UInt8) (pc : Nat)
  /-- Bytes are left over at `offset`. -/
  | trailingBytes (offset remaining : Nat)
  /-- The body of the named attribute makes no sense. -/
  | malformedAttribute (name : String)
  /-- A constant that takes two pool slots stands in the last slot. -/
  | wideConstantInLastSlot
  deriving DecidableEq, Repr

/-- Lower-case hexadecimal digits, padded with zeros to a width. -/
def hexDigits (width n : Nat) : String :=
  let digits := Nat.toDigits 16 n
  String.ofList (List.replicate (width - digits.length) '0' ++ digits)

/-- The wording of a fault. -/
def Fault.message : Fault → String
  | .unexpectedEnd offset needed =>
    s!"unexpected end of input at offset {offset} (needed {needed} more bytes)"
  | .wrongMagic magic => "invalid classfile magic: 0x" ++ hexDigits 8 magic.toNat
  | .noConstant index => s!"invalid constant pool index: {index}"
  | .unknownTag tag => s!"invalid constant pool tag: {tag}"
  | .wrongConstant index expected found =>
    s!"constant pool type mismatch at index {index}: expected {expected}, found {found}"
  | .malformedText => "invalid modified UTF-8 constant"
  | .malformedDescriptor text => "invalid descriptor: " ++ text
  | .unknownOpcode opcode pc =>
    "invalid opcode 0x" ++ hexDigits 2 opcode.toNat ++ s!" at pc {pc}"
  | .trailingBytes offset remaining => s!"{remaining} trailing bytes at offset {offset}"
  | .malformedAttribute name => s!"malformed {name} attribute"
  | .wideConstantInLastSlot => "8-byte constant in last constant pool slot"

/-- The offset that a fault itself points at. -/
def Fault.offset? : Fault → Option Nat
  | .unexpectedEnd offset _ => some offset
  | .trailingBytes offset _ => some offset
  | _ => none

/-- The structural parts of a class file. -/
inductive Section where
  | header
  | constantPool
  | classInfo
  | interfaces
  | field (index : UInt16)
  | method (index : UInt16)
  | classAttributes
  deriving DecidableEq, Repr

/-- The name of a section, as messages give it. -/
def Section.name : Section → String
  | .header => "header"
  | .constantPool => "constant pool"
  | .classInfo => "class info"
  | .interfaces => "interfaces table"
  | .field index => s!"field #{index}"
  | .method index => s!"method #{index}"
  | .classAttributes => "class attributes"

/-- A fault of a whole class file: its cause, and the section that was being read, with the offset
at which that section starts. -/
structure Rejection where
  fault : Fault
  part : Section
  start : Nat
  deriving DecidableEq, Repr

namespace Rejection

/-- The wording of a rejection: where, then why. -/
def message (r : Rejection) : String :=
  s!"in {r.part.name} (starting at offset {r.start}): " ++ r.fault.message

/-- The byte offset at which the input goes wrong: the fault's own, or else the section's start. -/
def offset (r : Rejection) : Nat := r.fault.offset?.getD r.start

end Rejection

end TypeAtlas
