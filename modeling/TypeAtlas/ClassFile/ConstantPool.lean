import TypeAtlas.ClassFile.Reader
import TypeAtlas.Text.ModifiedUtf8

/-!
# The constant pool

A class file keeps its names, numbers and references in numbered slots. Slot zero holds nothing,
and neither does the slot after a `Long` or a `Double`, which take two slots each. `read` reads a
pool, `Constant.encode` writes a constant, and the `get` functions follow an index and the indices
stored in what it finds.
-/

set_option autoImplicit false

namespace TypeAtlas.ClassFile

/-- An index into a constant pool. -/
abbrev PoolIndex := UInt16

/-- An entry of a constant pool. Floating-point constants are kept as their bits; `nat` is the index
of a `NameAndType` constant. -/
inductive Constant where
  | utf8 (text : String)
  | integer (value : Int32)
  | float (bits : UInt32)
  | long (value : Int64)
  | double (bits : UInt64)
  | classRef (name : PoolIndex)
  | string (text : PoolIndex)
  | fieldRef (owner nat : PoolIndex)
  | methodRef (owner nat : PoolIndex)
  | interfaceMethodRef (owner nat : PoolIndex)
  | nameAndType (name descriptor : PoolIndex)
  | methodHandle (kind : UInt8) (reference : PoolIndex)
  | methodType (descriptor : PoolIndex)
  | dynamic (bootstrap nat : PoolIndex)
  | invokeDynamic (bootstrap nat : PoolIndex)
  | module (name : PoolIndex)
  | package (name : PoolIndex)
  deriving DecidableEq, Repr

namespace Constant

/-- The name of a constant's kind. -/
def kindName : Constant → String
  | .utf8 _ => "Utf8"
  | .integer _ => "Integer"
  | .float _ => "Float"
  | .long _ => "Long"
  | .double _ => "Double"
  | .classRef _ => "Class"
  | .string _ => "String"
  | .fieldRef _ _ => "Fieldref"
  | .methodRef _ _ => "Methodref"
  | .interfaceMethodRef _ _ => "InterfaceMethodref"
  | .nameAndType _ _ => "NameAndType"
  | .methodHandle _ _ => "MethodHandle"
  | .methodType _ => "MethodType"
  | .dynamic _ _ => "Dynamic"
  | .invokeDynamic _ _ => "InvokeDynamic"
  | .module _ => "Module"
  | .package _ => "Package"

/-- Whether a constant takes two slots. -/
def isWide : Constant → Bool
  | .long _ => true
  | .double _ => true
  | _ => false

/-- The number of slots that a constant takes. -/
def width (c : Constant) : Nat := if c.isWide then 2 else 1

/-- The bytes of a constant: its tag, then its content. -/
def encode : Constant → Bytes
  | .utf8 text =>
    let body := Text.ModifiedUtf8.encode text
    1 :: count16 body.length ++ body
  | .integer value => 3 :: word32 value.toUInt32
  | .float bits => 4 :: word32 bits
  | .long value => 5 :: word64 value.toUInt64
  | .double bits => 6 :: word64 bits
  | .classRef name => 7 :: word16 name
  | .string text => 8 :: word16 text
  | .fieldRef owner nat => 9 :: word16 owner ++ word16 nat
  | .methodRef owner nat => 10 :: word16 owner ++ word16 nat
  | .interfaceMethodRef owner nat => 11 :: word16 owner ++ word16 nat
  | .nameAndType name descriptor => 12 :: word16 name ++ word16 descriptor
  | .methodHandle kind reference => 15 :: kind :: word16 reference
  | .methodType descriptor => 16 :: word16 descriptor
  | .dynamic bootstrap nat => 17 :: word16 bootstrap ++ word16 nat
  | .invokeDynamic bootstrap nat => 18 :: word16 bootstrap ++ word16 nat
  | .module name => 19 :: word16 name
  | .package name => 20 :: word16 name

open Reader in
/-- Reads the content of a constant whose tag has been read. -/
def readContent (tag : UInt8) : Reader Constant :=
  match tag with
  | 1 => do
    let length ← u2
    let body ← take length.toNat
    match Text.ModifiedUtf8.decode body with
    | some text => return .utf8 text
    | none => fail .malformedText
  | 3 => return .integer (← u4).toInt32
  | 4 => return .float (← u4)
  | 5 => return .long (← u8).toInt64
  | 6 => return .double (← u8)
  | 7 => return .classRef (← u2)
  | 8 => return .string (← u2)
  | 9 => return .fieldRef (← u2) (← u2)
  | 10 => return .methodRef (← u2) (← u2)
  | 11 => return .interfaceMethodRef (← u2) (← u2)
  | 12 => return .nameAndType (← u2) (← u2)
  | 15 => return .methodHandle (← u1) (← u2)
  | 16 => return .methodType (← u2)
  | 17 => return .dynamic (← u2) (← u2)
  | 18 => return .invokeDynamic (← u2) (← u2)
  | 19 => return .module (← u2)
  | 20 => return .package (← u2)
  | tag => fail (.unknownTag tag)

/-- Reads a constant. -/
def read : Reader Constant := do readContent (← Reader.u1)

end Constant

/-- The slots of a constant pool, by index; the unusable ones hold nothing. -/
structure ConstantPool where
  slots : Array (Option Constant)
  deriving Repr

/-- The kinds of members that a reference constant can name. -/
inductive MemberRefKind where
  | field | method | interfaceMethod
  deriving DecidableEq, Repr

/-- A reference constant with its names looked up. The owner is an internal name, or an array
descriptor for the members of array types. -/
structure MemberRef where
  kind : MemberRefKind
  owner : String
  name : String
  descriptor : String
  deriving DecidableEq, Repr

namespace ConstantPool

/-- Reads constants until a number of slots is filled. A constant of two slots does not fit into
the last one. -/
def readSlots : Nat → Reader (List (Option Constant))
  | 0 => pure []
  | 1 => do
    let c ← Constant.read
    if c.isWide then Reader.fail .wideConstantInLastSlot else return [some c]
  | slots + 2 => do
    let c ← Constant.read
    if c.isWide then
      let others ← readSlots slots
      return some c :: none :: others
    else
      let others ← readSlots (slots + 1)
      return some c :: others

/-- Reads a pool: the number of its slots, the empty first one included, then its constants. -/
def read : Reader ConstantPool := do
  let count ← Reader.u2
  let slots ← readSlots (count.toNat - 1)
  return ⟨(none :: slots).toArray⟩

variable (pool : ConstantPool)

/-- The constant at an index. -/
def get (index : PoolIndex) : Except Fault Constant :=
  match pool.slots[index.toNat]? with
  | some (some c) => .ok c
  | _ => .error (.noConstant index)

/-- The fault of a constant that is not of the expected kind. -/
def mismatch (index : PoolIndex) (expected : String) (found : Constant) : Fault :=
  .wrongConstant index expected found.kindName

/-- The text of a `Utf8` constant. -/
def getUtf8 (index : PoolIndex) : Except Fault String := do
  match ← pool.get index with
  | .utf8 text => return text
  | c => throw (mismatch index "Utf8" c)

/-- The name that a `Class` constant refers to. -/
def getClassName (index : PoolIndex) : Except Fault String := do
  match ← pool.get index with
  | .classRef name => pool.getUtf8 name
  | c => throw (mismatch index "Class" c)

/-- The name that a `Class` constant refers to; index zero stands for no class. -/
def getClassName? (index : PoolIndex) : Except Fault (Option String) :=
  if index = 0 then .ok none else some <$> pool.getClassName index

/-- The text of a `String` constant, or of the `Utf8` constant that stands in for one. -/
def getString (index : PoolIndex) : Except Fault String := do
  match ← pool.get index with
  | .string text => pool.getUtf8 text
  | .utf8 text => return text
  | c => throw (mismatch index "String" c)

/-- The name and the descriptor that a `NameAndType` constant refers to. -/
def getNameAndType (index : PoolIndex) : Except Fault (String × String) := do
  match ← pool.get index with
  | .nameAndType name descriptor => return (← pool.getUtf8 name, ← pool.getUtf8 descriptor)
  | c => throw (mismatch index "NameAndType" c)

/-- The member that a reference constant names, its owner looked up first. -/
def getMemberRef (index : PoolIndex) : Except Fault MemberRef := do
  match ← pool.get index with
  | .fieldRef owner nat => lookUp .field owner nat
  | .methodRef owner nat => lookUp .method owner nat
  | .interfaceMethodRef owner nat => lookUp .interfaceMethod owner nat
  | c => throw (mismatch index "Fieldref/Methodref/InterfaceMethodref" c)
where
  /-- Looks up the names behind the two indices of a reference. -/
  lookUp (kind : MemberRefKind) (owner nat : PoolIndex) : Except Fault MemberRef := do
    let owner ← pool.getClassName owner
    let (name, descriptor) ← pool.getNameAndType nat
    return ⟨kind, owner, name, descriptor⟩

/-- The value of an `Integer` constant. -/
def getInteger (index : PoolIndex) : Except Fault Int32 := do
  match ← pool.get index with
  | .integer value => return value
  | c => throw (mismatch index "Integer" c)

/-- The value of a `Long` constant. -/
def getLong (index : PoolIndex) : Except Fault Int64 := do
  match ← pool.get index with
  | .long value => return value
  | c => throw (mismatch index "Long" c)

/-- The bits of a `Float` constant. -/
def getFloat (index : PoolIndex) : Except Fault UInt32 := do
  match ← pool.get index with
  | .float bits => return bits
  | c => throw (mismatch index "Float" c)

/-- The bits of a `Double` constant. -/
def getDouble (index : PoolIndex) : Except Fault UInt64 := do
  match ← pool.get index with
  | .double bits => return bits
  | c => throw (mismatch index "Double" c)

end ConstantPool

end TypeAtlas.ClassFile
