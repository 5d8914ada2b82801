import Mathlib.Algebra.GroupWithZero.Nat
import TypeAtlas.Proofs.Assembly.Content
import TypeAtlas.Proofs.Assembly.Pool

/-!
# Descriptions that fit into a class file

`ClassSpec.Fits` says that a description can be written as a class file at all: every count, length
and constant fits into the bytes that the format has for it, descriptors spell types, switches have
their keys in order, and a further attribute has no name that means something on a class. Sizes are
those of the description (`ValueSpec.size`, `sizeFrom`), not of bytes already written.
-/

set_option autoImplicit false

namespace TypeAtlas.Assembly

open ClassFile (MemberRefKind)

/-! ## Annotations -/

mutual

/-- The number of bytes in which a value is written. -/
def ValueSpec.size : ValueSpec → Nat
  | .const _ => 3
  | .enumConst _ _ => 5
  | .classLiteral _ => 3
  | .nested _ elements => sizeOfElements elements + 5
  | .array values => sizeOfValues values + 3

/-- The number of bytes in which named values are written. -/
def sizeOfElements : List (String × ValueSpec) → Nat
  | [] => 0
  | (_, value) :: rest => 2 + value.size + sizeOfElements rest

/-- The number of bytes in which a list of values is written. -/
def sizeOfValues : List ValueSpec → Nat
  | [] => 0
  | value :: rest => value.size + sizeOfValues rest

end

mutual

/-- The types of a value are classes, its class literals spell types, and its lists can be
counted. -/
def ValueSpec.Fits : ValueSpec → Prop
  | .const _ => True
  | .enumConst type _ => IsClassName type
  | .classLiteral descriptor => descriptor = "V" ∨ (FieldType.parse descriptor).isOk
  | .nested type elements => IsClassName type ∧ elements.length ≤ 65535 ∧ ElementsFit elements
  | .array values => values.length ≤ 65535 ∧ ValuesFit values

/-- Each of the named values fits. -/
def ElementsFit : List (String × ValueSpec) → Prop
  | [] => True
  | (_, value) :: rest => value.Fits ∧ ElementsFit rest

/-- Each of the values fits. -/
def ValuesFit : List ValueSpec → Prop
  | [] => True
  | value :: rest => value.Fits ∧ ValuesFit rest

end

/-- The number of bytes in which an annotation is written. -/
def AnnotationSpec.size (a : AnnotationSpec) : Nat := 4 + sizeOfElements a.elements

/-- The type of an annotation is a class, and its elements fit. -/
structure AnnotationSpec.Fits (a : AnnotationSpec) : Prop where
  type : IsClassName a.type
  count : a.elements.length ≤ 65535
  elements : ElementsFit a.elements

/-- The annotations of one table fit. The length of the table is written in four bytes. -/
structure AnnotationsFit (annotations : List AnnotationSpec) : Prop where
  count : annotations.length ≤ 65535
  size : 2 + (annotations.map AnnotationSpec.size).sum < 4294967296
  each : ∀ a ∈ annotations, a.Fits

/-! ## Code -/

/-- The descriptor of a member spells a type of its sort, and so does an owner that is one. -/
structure Access.Fits (a : Access) : Prop where
  descriptor : match a.sort with
    | .field => (FieldType.parse a.target.descriptor).isOk
    | _ => (MethodType.parse a.target.descriptor).isOk
  owner : a.target.owner.toList.head? = some '[' → (FieldType.parse a.target.owner).isOk

/-- An instruction of a known form: raw bytes may be anything, and the keys of a switch must be in
order. -/
def Instruction.Fits : Instruction → Prop
  | .tableSwitch low high => low ≤ high
  | .raw _ => False
  | i => ∀ access ∈ i.access?, access.Fits

/-- The instructions of a code body fit, and their bytes and lines can be counted. -/
structure CodeFits (instructions : List Instruction) : Prop where
  each : ∀ i ∈ instructions, i.Fits
  size : sizeFrom 0 instructions ≤ 65535
  lines : (linesFrom 0 instructions).length ≤ 65535

/-! ## Members and classes -/

/-- A field fits. -/
structure FieldSpec.Fits (f : FieldSpec) : Prop where
  descriptor : (FieldType.parse f.descriptor).isOk
  annotations : AnnotationsFit f.annotations

/-- A method fits. -/
structure MethodSpec.Fits (m : MethodSpec) : Prop where
  descriptor : (MethodType.parse m.descriptor).isOk
  code : ∀ instructions ∈ m.code, CodeFits instructions
  throws : m.throws.length ≤ 65535
  annotations : AnnotationsFit m.annotations

/-- The names that mean something on a class. -/
def recognisedNames : List String :=
  ["Signature", "SourceFile", "RuntimeVisibleAnnotations", "RuntimeInvisibleAnnotations",
    "InnerClasses", "EnclosingMethod"]

/-- The constants that a class asks for. -/
def ClassSpec.pool (c : ClassSpec) : PoolBuilder := (c.writeBody.run {}).2

/-- A class fits into a class file. The length of an attribute is written in four bytes, which only
annotations and further attributes can exceed. -/
structure ClassSpec.Fits (c : ClassSpec) : Prop where
  pool : c.pool.Fits
  interfaces : c.interfaces.length ≤ 65535
  fieldCount : c.fields.length ≤ 65535
  fields : ∀ f ∈ c.fields, f.Fits
  methodCount : c.methods.length ≤ 65535
  methods : ∀ m ∈ c.methods, m.Fits
  visible : AnnotationsFit c.visible
  invisible : AnnotationsFit c.invisible
  innerClasses : c.innerClasses.length ≤ 65535
  attributeCount : c.attributes.length ≤ 65535
  extra : ∀ a ∈ c.extraAttributes, a.1 ∉ recognisedNames ∧ a.2.length < 4294967296

end TypeAtlas.Assembly
