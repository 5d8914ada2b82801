import TypeAtlas.ClassFile.ConstantPool
import TypeAtlas.Text.Name

/-!
# Building a constant pool

A pool builder holds the constants asked for so far, each once, in the order of the first request.
The index of a constant is one more than the slots taken by the constants before it. Asking for a
name, a class or a member reference first asks for the constants that it refers to.
-/

set_option autoImplicit false

namespace TypeAtlas.Assembly

open ClassFile (Constant PoolIndex MemberRefKind)

/-- The constants of a pool under construction. -/
structure PoolBuilder where
  constants : List Constant := []
  deriving Repr

/-- A computation that may ask for constants. -/
abbrev Assembler := StateM PoolBuilder

namespace PoolBuilder

/-- The number of slots that constants take. -/
def slotsOf : List Constant → Nat
  | [] => 0
  | c :: rest => c.width + slotsOf rest

/-- The index of a constant in a list whose first constant has the given index. -/
def indexFrom (start : Nat) (constants : List Constant) (c : Constant) : Option Nat :=
  match constants with
  | [] => none
  | d :: rest => if d = c then some start else indexFrom (start + d.width) rest c

/-- The index that the next new constant gets. -/
def next (pool : PoolBuilder) : Nat := 1 + slotsOf pool.constants

/-- The index of a constant, which is added unless it is there already. -/
def add (c : Constant) : Assembler PoolIndex := fun pool =>
  match indexFrom 1 pool.constants c with
  | some index => (UInt16.ofNat index, pool)
  | none => (UInt16.ofNat pool.next, ⟨pool.constants ++ [c]⟩)

/-- The index of a text. -/
def utf8 (text : String) : Assembler PoolIndex := add (.utf8 text)

/-- The index of a class, given its internal name. -/
def classRef (internalName : String) : Assembler PoolIndex := do
  add (.classRef (← utf8 internalName))

/-- The index of a class if there is one, and zero otherwise. -/
def classRef? : Option String → Assembler PoolIndex
  | some internalName => classRef internalName
  | none => pure 0

/-- The index of a text if there is one, and zero otherwise. -/
def utf8? : Option String → Assembler PoolIndex
  | some text => utf8 text
  | none => pure 0

/-- The index of a name with a descriptor. -/
def nameAndType (name descriptor : String) : Assembler PoolIndex := do
  let name ← utf8 name
  let descriptor ← utf8 descriptor
  add (.nameAndType name descriptor)

/-- The reference constant of a kind. -/
def referenceConstant (kind : MemberRefKind) (owner nat : PoolIndex) : Constant :=
  match kind with
  | .field => .fieldRef owner nat
  | .method => .methodRef owner nat
  | .interfaceMethod => .interfaceMethodRef owner nat

/-- The index of a member reference. The owner is a binary name or an array descriptor. -/
def memberRef (kind : MemberRefKind) (owner name descriptor : String) : Assembler PoolIndex := do
  let owner ← classRef (Text.internalName owner)
  let nat ← nameAndType name descriptor
  add (referenceConstant kind owner nat)

/-- The bytes of the pool: the number of its slots, the empty first one included, then its
constants. -/
def write (pool : PoolBuilder) : Bytes :=
  count16 pool.next ++ pool.constants.flatMap Constant.encode

end PoolBuilder

end TypeAtlas.Assembly
