import TypeAtlas.Graph.Basic

/-!
# The names that classes mention

Types are numbered in the order in which linking comes across their names. This module lists the
names in that order; an array type is preceded by its component types.
-/

set_option autoImplicit false

namespace TypeAtlas

open ClassFile (MemberReference)

/-- A member as it is linked: fields and code units alike, their types by name. -/
structure DeclaredMember where
  kind : MemberKind
  name : String
  descriptor : String
  parameterTypes : List String
  valueType : String
  throws : List String
  modifiers : Modifiers
  signature : Option String
  annotations : List (AnnotationTree String)
  references : List MemberReference

/-- A field as a member. -/
def FieldRecord.declared (f : FieldRecord) : DeclaredMember where
  kind := .field
  name := f.name
  descriptor := f.descriptor
  parameterTypes := []
  valueType := f.type.typeName
  throws := []
  modifiers := f.modifiers
  signature := f.signature
  annotations := f.annotations
  references := []

/-- A code unit as a member. -/
def CodeUnit.declared (u : CodeUnit) : DeclaredMember where
  kind := MemberKind.ofCodeUnit u.kind
  name := u.name
  descriptor := u.descriptor
  parameterTypes := u.type.params.map FieldType.typeName
  valueType := u.type.result.typeName
  throws := u.throws
  modifiers := u.modifiers
  signature := u.signature
  annotations := u.annotations
  references := u.references

/-- The members of a class: its fields, then its code units. -/
def ClassRecord.declaredMembers (c : ClassRecord) : List DeclaredMember :=
  c.fields.map FieldRecord.declared ++ c.codeUnits.map CodeUnit.declared

/-- The type names in a reference. -/
def referenceMentions (r : MemberReference) : List String :=
  r.owner :: (r.parameterTypes ++ [r.valueType])

/-- The type names in a member. -/
def DeclaredMember.mentions (m : DeclaredMember) : List String :=
  m.parameterTypes ++ m.valueType :: m.throws ++ m.annotations.flatMap AnnotationTree.types ++
    m.references.flatMap referenceMentions

/-- The type names in a class. -/
def ClassRecord.mentions (c : ClassRecord) : List String :=
  c.name :: c.superClass.toList ++ c.interfaces ++ c.enclosingClass.toList ++
    c.annotations.flatMap AnnotationTree.types ++
    c.declaredMembers.flatMap DeclaredMember.mentions

/-- A name after the names of its component types, the innermost first. -/
def componentsFirst (name : List Char) : List String :=
  match h : Text.stripDimension name with
  | some component =>
    have := Text.length_stripDimension h
    componentsFirst component ++ [String.ofList name]
  | none => [String.ofList name]
termination_by name.length

/-- The names that linking comes across: the root and the linked classes, then what each class
mentions. -/
def mentions (classes : List ClassRecord) : List String :=
  (rootName :: classes.map (·.name) ++ classes.flatMap ClassRecord.mentions).flatMap
    fun name => componentsFirst name.toList

end TypeAtlas
