import TypeAtlas.AnnotationTree
import TypeAtlas.ClassFile.ConstantPool
import TypeAtlas.Descriptor

/-!
# Annotations in a class file

An annotation is stored as the index of its type's descriptor and a table of element names and
values; a value starts with a letter that says what follows. Each nested value is preceded by at
least one byte of the value around it, so the number of bytes at hand bounds the depth.
-/

set_option autoImplicit false

namespace TypeAtlas.ClassFile

open Reader

/-- The fault of a body that the attribute called `holder` cannot have. -/
def malformed {α : Type} (holder : String) : Except Fault α :=
  .error (.malformedAttribute holder)

/-- The class that a descriptor in an attribute names. -/
def attributeClass (holder descriptor : String) : Except Fault String :=
  match classNameOfDescriptor descriptor with
  | some name => .ok name
  | none => malformed holder

/-- Reads an annotation, given how to read the values of its elements. -/
def readAnnotationWith (pool : ConstantPool) (holder : String)
    (value : Reader (ElementValue String)) : Reader (AnnotationTree String) := do
  let descriptor ← lift (pool.getUtf8 (← u2))
  let type ← lift (attributeClass holder descriptor)
  let elements ← table do
    let name ← lift (pool.getUtf8 (← u2))
    return (name, ← value)
  return ⟨descriptor, type, elements⟩

/-- Reads a constant of a kind that a letter stands for; nothing for any other letter. -/
def readConst? (pool : ConstantPool) (tag : Char) : Option (Reader ConstValue) :=
  match tag with
  | 'B' => some do return .byte (← lift (pool.getInteger (← u2))).toInt8
  | 'C' => some do return .char (← lift (pool.getInteger (← u2))).toUInt32.toUInt16
  | 'I' => some do return .int (← lift (pool.getInteger (← u2)))
  | 'S' => some do return .short (← lift (pool.getInteger (← u2))).toInt16
  | 'Z' => some do return .boolean ((← lift (pool.getInteger (← u2))) != 0)
  | 'D' => some do return .double (← lift (pool.getDouble (← u2)))
  | 'F' => some do return .float (← lift (pool.getFloat (← u2)))
  | 'J' => some do return .long (← lift (pool.getLong (← u2)))
  | 's' => some do return .string (← lift (pool.getString (← u2)))
  | _ => none

/-- Reads a value in which at most `depth` values are nested. -/
def readElementValue (pool : ConstantPool) (holder : String) :
    Nat → Reader (ElementValue String)
  | 0 => lift (malformed holder)
  | depth + 1 => do
    let tag := Char.ofNat (← u1).toNat
    match readConst? pool tag with
    | some const => return .const (← const)
    | none =>
      match tag with
      | 'e' =>
        let type ← u2
        let name ← u2
        let type ← lift (pool.getUtf8 type)
        let type ← lift (attributeClass holder type)
        return .enumConst type (← lift (pool.getUtf8 name))
      | 'c' =>
        let descriptor ← lift (pool.getUtf8 (← u2))
        return .classLiteral (← lift (typeNameOfLiteral descriptor))
      | '@' =>
        let nested ← readAnnotationWith pool holder (readElementValue pool holder depth)
        return .nested nested.descriptor nested.type nested.elements
      | '[' => return .array (← table (readElementValue pool holder depth))
      | _ => lift (malformed holder)

/-- Reads an annotation from what is left of an attribute's body. -/
def readAnnotationTree (pool : ConstantPool) (holder : String) : Reader (AnnotationTree String) :=
  fun cursor =>
    readAnnotationWith pool holder (readElementValue pool holder (cursor.bytes.length + 1))
      cursor

/-- Reads a table of annotations. -/
def readAnnotations (pool : ConstantPool) (holder : String) :
    Reader (List (AnnotationTree String)) :=
  table (readAnnotationTree pool holder)

end TypeAtlas.ClassFile
