import TypeAtlas.Assembly.PoolBuilder
import TypeAtlas.Assembly.Spec
import TypeAtlas.ClassFile.Basic

/-!
# Assembling class files

`ClassSpec.assemble` writes the class file that a description asks for. Everything after the
constant pool is written first, which asks for the constants in the order of their use; of an
attribute, the constants of its body come before its name.
-/

set_option autoImplicit false

namespace TypeAtlas.Assembly

open ClassFile (PoolIndex LineNumber MemberRefKind)
open PoolBuilder

/-- A table: the number of its entries in two bytes, then the entries. -/
def writeTable {α : Type} (item : α → Assembler Bytes) (entries : List α) : Assembler Bytes := do
  let bodies ← entries.mapM item
  return count16 entries.length ++ bodies.flatten

/-- An attribute, ready to be written: the index of its name, and its body. -/
structure Attribute where
  name : PoolIndex
  body : Bytes

/-- The bytes of an attribute. -/
def Attribute.write (a : Attribute) : Bytes := word16 a.name ++ count32 a.body.length ++ a.body

/-- Names an attribute after its body has been written. -/
def named (name : String) (body : Assembler Bytes) : Assembler Attribute := do
  let body ← body
  let name ← utf8 name
  return ⟨name, body⟩

/-- A table of attributes. -/
def writeAttributes (attributes : List (Assembler Attribute)) : Assembler Bytes :=
  writeTable (fun a => Attribute.write <$> a) attributes

/-- The attribute that some texts call for, if there is one. -/
def textAttribute (name : String) (text : Option String) : List (Assembler Attribute) :=
  match text with
  | some text => [named name (word16 <$> utf8 text)]
  | none => []

/-- The attribute for a list of entries, which an empty list does without. -/
def tableAttribute {α : Type} (name : String) (item : α → Assembler Bytes) (entries : List α) :
    List (Assembler Attribute) :=
  if entries.isEmpty then [] else [named name (writeTable item entries)]

/-! ## Annotations -/

/-- The letter of a constant's kind. -/
def constTag : ConstValue → Char
  | .byte _ => 'B'
  | .char _ => 'C'
  | .short _ => 'S'
  | .int _ => 'I'
  | .long _ => 'J'
  | .float _ => 'F'
  | .double _ => 'D'
  | .boolean _ => 'Z'
  | .string _ => 's'

/-- The constant that holds a value. -/
def constConstant : ConstValue → ClassFile.Constant
  | .byte value => .integer value.toInt32
  | .char unit => .integer unit.toUInt32.toInt32
  | .short value => .integer value.toInt32
  | .int value => .integer value
  | .long value => .long value
  | .float bits => .float bits
  | .double bits => .double bits
  | .boolean value => .integer (if value then 1 else 0)
  | .string text => .utf8 text

/-- The byte of a letter. -/
def letterByte (letter : Char) : UInt8 := UInt8.ofNat letter.toNat

mutual

/-- Writes the value of an annotation element. -/
def writeValue : ValueSpec → Assembler Bytes
  | .const value => do
    let index ← add (constConstant value)
    return letterByte (constTag value) :: word16 index
  | .enumConst type name => do
    let type ← utf8 (descriptorOf type)
    let name ← utf8 name
    return letterByte 'e' :: (word16 type ++ word16 name)
  | .classLiteral descriptor => do
    let index ← utf8 descriptor
    return letterByte 'c' :: word16 index
  | .nested type elements => do
    let type ← utf8 (descriptorOf type)
    let body ← writeElements elements
    return letterByte '@' :: (word16 type ++ (count16 elements.length ++ body))
  | .array values => do
    let body ← writeValues values
    return letterByte '[' :: (count16 values.length ++ body)

/-- Writes the names and values of annotation elements. -/
def writeElements : List (String × ValueSpec) → Assembler Bytes
  | [] => pure []
  | (name, value) :: rest => do
    let name ← utf8 name
    let value ← writeValue value
    let others ← writeElements rest
    return word16 name ++ (value ++ others)

/-- Writes values one after another. -/
def writeValues : List ValueSpec → Assembler Bytes
  | [] => pure []
  | value :: rest => do
    let value ← writeValue value
    let others ← writeValues rest
    return value ++ others

end

/-- Writes an annotation. -/
def writeAnnotationTree (a : AnnotationSpec) : Assembler Bytes := do
  let type ← utf8 (descriptorOf a.type)
  let body ← writeElements a.elements
  return word16 type ++ (count16 a.elements.length ++ body)

/-- The attribute for annotations, if there are any. -/
def visibleAttribute (annotations : List AnnotationSpec) : List (Assembler Attribute) :=
  tableAttribute "RuntimeVisibleAnnotations" writeAnnotationTree annotations

/-! ## Code -/

/-- Writes an opcode with a reference as its operand. -/
def writeReference (opcode : UInt8) (kind : MemberRefKind) (target : Target) : Assembler Bytes := do
  let index ← memberRef kind target.owner target.name target.descriptor
  return opcode :: word16 index

/-- The padding after a switch opcode at `pc`, up to a multiple of four. -/
def paddingAt (pc : Nat) : Bytes := List.replicate (ClassFile.switchPadding pc) 0

/-- The bytes of an instruction at `pc`. Switches lead to offset zero throughout. -/
def Instruction.write (pc : Nat) : Instruction → Assembler Bytes
  | .line _ => pure []
  | .getField target => writeReference 0xb4 .field target
  | .putField target => writeReference 0xb5 .field target
  | .getStatic target => writeReference 0xb2 .field target
  | .putStatic target => writeReference 0xb3 .field target
  | .invokeVirtual target => writeReference 0xb6 .method target
  | .invokeSpecial target => writeReference 0xb7 .method target
  | .invokeStatic target => writeReference 0xb8 .method target
  | .invokeStaticInterface target => writeReference 0xb8 .interfaceMethod target
  | .invokeInterface target => do
    let call ← writeReference 0xb9 .interfaceMethod target
    return call ++ [1, 0]
  | .new className => do
    let index ← classRef (Text.internalName className)
    return 0xbb :: word16 index
  | .tableSwitch low high =>
    let entries := (high.toInt - low.toInt + 1).toNat
    pure (0xaa :: (paddingAt pc ++ word32 0 ++ word32 low.toUInt32 ++ word32 high.toUInt32 ++
      (List.replicate entries (word32 0)).flatten))
  | .lookupSwitch pairs =>
    pure (0xab :: (paddingAt pc ++ word32 0 ++ word32 pairs ++
      (List.range pairs.toNat).flatMap fun key => word32 (UInt32.ofNat key) ++ word32 0))
  | .raw bytes => pure bytes
  | .return => pure [0xb1]

/-- The line-table entry that an instruction at `pc` calls for. -/
def Instruction.lineEntry (pc : Nat) : Instruction → List LineNumber
  | .line number => [⟨UInt16.ofNat pc, number⟩]
  | _ => []

/-- The bytes of instructions from `pc` on, and the line table that goes with them. -/
def writeInstructions : Nat → List Instruction → Assembler (Bytes × List LineNumber)
  | _, [] => pure ([], [])
  | pc, first :: rest => do
    let here ← first.write pc
    let (code, lines) ← writeInstructions (pc + here.length) rest
    return (here ++ code, first.lineEntry pc ++ lines)

/-- Writes an entry of a line table. -/
def writeLineNumber (entry : LineNumber) : Assembler Bytes :=
  pure (word16 entry.startPc ++ word16 entry.line)

/-- The body of a code attribute. Stack and locals have a fixed size, and no exception is
handled. -/
def writeCode (instructions : List Instruction) : Assembler Bytes := do
  let (code, lines) ← writeInstructions 0 instructions
  let attributes ← writeAttributes (tableAttribute "LineNumberTable" writeLineNumber lines)
  return word16 8 ++ word16 8 ++ count32 code.length ++ code ++ word16 0 ++ attributes

/-! ## Members and classes -/

/-- Writes the flags, the name, the descriptor and the attributes of a member. -/
def writeMember (flags : UInt16) (name descriptor : String)
    (attributes : List (Assembler Attribute)) : Assembler Bytes := do
  let name ← utf8 name
  let descriptor ← utf8 descriptor
  let attributes ← writeAttributes attributes
  return word16 flags ++ word16 name ++ word16 descriptor ++ attributes

/-- Writes a field. -/
def FieldSpec.write (f : FieldSpec) : Assembler Bytes :=
  writeMember f.flags f.name f.descriptor
    (textAttribute "Signature" f.signature ++ visibleAttribute f.annotations)

/-- Writes the index of a class, given its internal name. -/
def writeClassRef (internalName : String) : Assembler Bytes := word16 <$> classRef internalName

/-- The attributes of a method. -/
def MethodSpec.attributes (m : MethodSpec) : List (Assembler Attribute) :=
  (match m.code with
    | some instructions => [named "Code" (writeCode instructions)]
    | none => []) ++
  tableAttribute "Exceptions" (fun name => writeClassRef (Text.internalName name)) m.throws ++
  textAttribute "Signature" m.signature ++ visibleAttribute m.annotations

/-- Writes a method. -/
def MethodSpec.write (m : MethodSpec) : Assembler Bytes :=
  writeMember m.flags m.name m.descriptor m.attributes

/-- Writes an entry of an inner-class table. -/
def InnerSpec.write (entry : InnerSpec) : Assembler Bytes := do
  let inner ← classRef entry.inner
  let outer ← classRef? entry.outer
  let innerName ← utf8? entry.innerName
  return word16 inner ++ word16 outer ++ word16 innerName ++ word16 entry.flags

/-- Writes the place in which a class is declared. -/
def EnclosingSpec.write (place : EnclosingSpec) : Assembler Bytes := do
  let owner ← classRef place.owner
  let method ←
    match place.method with
    | some (name, descriptor) => nameAndType name descriptor
    | none => pure 0
  return word16 owner ++ word16 method

namespace ClassSpec

/-- The attributes of a class. -/
def attributes (c : ClassSpec) : List (Assembler Attribute) :=
  textAttribute "SourceFile" c.sourceFile ++ textAttribute "Signature" c.signature ++
  visibleAttribute c.visible ++
  tableAttribute "RuntimeInvisibleAnnotations" writeAnnotationTree c.invisible ++
  tableAttribute "InnerClasses" InnerSpec.write c.innerClasses ++
  (match c.enclosingMethod with
    | some place => [named "EnclosingMethod" place.write]
    | none => []) ++
  c.extraAttributes.map fun (name, body) => named name (pure body)

/-- Writes what follows the constant pool. -/
def writeBody (c : ClassSpec) : Assembler Bytes := do
  let thisClass ← classRef c.name
  let superClass ← classRef? c.superClass
  let interfaces ← writeTable writeClassRef c.interfaces
  let fields ← writeTable FieldSpec.write c.fields
  let methods ← writeTable MethodSpec.write c.methods
  let attributes ← writeAttributes c.attributes
  return word16 c.flags ++ word16 thisClass ++ word16 superClass ++ interfaces ++ fields ++
    methods ++ attributes

/-- The class file of a description. -/
def assemble (c : ClassSpec) : Bytes :=
  let (body, pool) := c.writeBody.run {}
  word32 ClassFile.magic ++ word16 0 ++ word16 c.majorVersion ++ pool.write ++ body

end ClassSpec

end TypeAtlas.Assembly
