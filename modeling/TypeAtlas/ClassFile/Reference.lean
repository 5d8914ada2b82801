import TypeAtlas.ClassFile.ConstantPool
import TypeAtlas.ClassFile.Instruction
import TypeAtlas.Descriptor

/-!
# References made by code

`scanReferences` walks a code body from instruction to instruction and records every field access
and every call, in order, with the source line that the line table gives for it.
-/

set_option autoImplicit false

namespace TypeAtlas.ClassFile

/-- An entry of a line table: code from `startPc` on belongs to a source line. -/
structure LineNumber where
  startPc : UInt16
  line : UInt16
  deriving DecidableEq, Repr

/-- The instructions that refer to members. -/
inductive ReferenceKind where
  | getField | putField | getStatic | putStatic
  | invokeVirtual | invokeSpecial | invokeStatic | invokeInterface
  deriving DecidableEq, Repr

namespace ReferenceKind

/-- The opcode of a reference instruction. -/
def opcode : ReferenceKind → UInt8
  | .getStatic => 0xb2
  | .putStatic => 0xb3
  | .getField => 0xb4
  | .putField => 0xb5
  | .invokeVirtual => 0xb6
  | .invokeSpecial => 0xb7
  | .invokeStatic => 0xb8
  | .invokeInterface => 0xb9

/-- The reference instruction of an opcode, if it is one. -/
def ofOpcode? (opcode : UInt8) : Option ReferenceKind :=
  match opcode with
  | 0xb2 => some .getStatic
  | 0xb3 => some .putStatic
  | 0xb4 => some .getField
  | 0xb5 => some .putField
  | 0xb6 => some .invokeVirtual
  | 0xb7 => some .invokeSpecial
  | 0xb8 => some .invokeStatic
  | 0xb9 => some .invokeInterface
  | _ => none

/-- Whether an instruction accesses a field. -/
def isFieldAccess : ReferenceKind → Bool
  | .getField | .putField | .getStatic | .putStatic => true
  | _ => false

/-- Whether an instruction writes a field. -/
def isWrite : ReferenceKind → Bool
  | .putField | .putStatic => true
  | _ => false

end ReferenceKind

/-- The name under which constructors are stored. -/
def constructorName : String := "<init>"

/-- The name under which static initializers are stored. -/
def staticInitializerName : String := "<clinit>"

/-- A field access or a call found in a code body, its types by name. The line is zero when the
line table covers no such place. -/
structure MemberReference where
  kind : ReferenceKind
  owner : String
  ownerIsInterface : Bool
  name : String
  descriptor : String
  /-- The types of the parameters; none for a field. -/
  parameterTypes : List String
  /-- The type of the field, or the result of the call. -/
  valueType : String
  pc : Nat
  line : UInt16
  deriving DecidableEq, Repr

/-- Whether a reference calls a constructor. -/
def MemberReference.isConstructorCall (r : MemberReference) : Bool :=
  r.kind == .invokeSpecial && r.name == constructorName

/-- The entry that covers a place in the code: of those that start at or before it, one with the
greatest start, and the last of these. -/
def coveringLine (pc : Nat) (lines : List LineNumber) : Option LineNumber :=
  lines.foldl (fun best entry =>
    if entry.startPc.toNat ≤ pc then
      match best with
      | some b => if b.startPc ≤ entry.startPc then some entry else best
      | none => some entry
    else best) none

/-- The source line of a place in the code, zero if no entry covers it. -/
def lineAt (pc : Nat) (lines : List LineNumber) : UInt16 :=
  match coveringLine pc lines with
  | some entry => entry.line
  | none => 0

/-- The parameter types and the value type of a member, by name. -/
def signatureTypes (kind : MemberRefKind) (descriptor : String) :
    Except Fault (List String × String) :=
  match kind with
  | .field => (FieldType.parse descriptor).map fun type => ([], type.typeName)
  | _ => (MethodType.parse descriptor).map fun type =>
    (type.params.map FieldType.typeName, type.result.typeName)

/-- The reference that an instruction of the given kind makes through a pool index. Field
instructions go through field references, and calls through method references of either sort. -/
def memberReference (pool : ConstantPool) (lines : List LineNumber) (pc : Nat)
    (kind : ReferenceKind) (index : PoolIndex) : Except Fault MemberReference := do
  let target ← pool.getMemberRef index
  if (target.kind == .field) != kind.isFieldAccess then malformedCode
  else
    let (parameterTypes, valueType) ← signatureTypes target.kind target.descriptor
    let owner ← typeNameOfClassConstant target.owner
    return {
      kind
      owner
      ownerIsInterface := target.kind == .interfaceMethod
      name := target.name
      descriptor := target.descriptor
      parameterTypes
      valueType
      pc
      line := lineAt pc lines }

/-- The reference, if any, that the instruction at `pc` makes. -/
def referenceAt (pool : ConstantPool) (lines : List LineNumber) (pc : Nat) (opcode : UInt8)
    (operands : Bytes) : Except Fault (Option MemberReference) :=
  match ReferenceKind.ofOpcode? opcode with
  | some kind => some <$>
    memberReference pool lines pc kind (UInt16.ofNat (ofBigEndian (operands.take 2)))
  | none => .ok none

/-- The references that the instructions from `pc` on make. -/
def scanFrom (pool : ConstantPool) (lines : List LineNumber) (pc : Nat) (code : Bytes) :
    Except Fault (List MemberReference) :=
  match code with
  | [] => .ok []
  | opcode :: following => do
    let length ← operandLength pc opcode following
    match h : splitExactly length following with
    | none => malformedCode
    | some (operands, rest) =>
      have : rest.length < (opcode :: following).length :=
        Nat.lt_succ_of_le (length_splitExactly h)
      let here ← referenceAt pool lines pc opcode operands
      let others ← scanFrom pool lines (pc + 1 + length) rest
      return here.toList ++ others
termination_by code.length
decreasing_by exact this

/-- The references that a code body makes, in the order of its instructions. -/
def scanReferences (pool : ConstantPool) (lines : List LineNumber) (code : Bytes) :
    Except Fault (List MemberReference) :=
  scanFrom pool lines 0 code

end TypeAtlas.ClassFile
