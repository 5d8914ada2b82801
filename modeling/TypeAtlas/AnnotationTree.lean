/-!
# Annotations

An annotation names its type and gives values to elements; a value may itself be an annotation, or
a list of values. The trees are the same whether types are known by name or by an id, so they are
stated over the kind `τ` of type references: `map` exchanges the references and keeps the tree, and
`types` lists them in the order in which they are written.
-/

set_option autoImplicit false

namespace TypeAtlas

/-- A constant given to an annotation element. A character is a UTF-16 unit, and the floating-point
constants are kept as their bits. -/
inductive ConstValue where
  | byte (value : Int8)
  | char (unit : UInt16)
  | short (value : Int16)
  | int (value : Int32)
  | long (value : Int64)
  | float (bits : UInt32)
  | double (bits : UInt64)
  | boolean (value : Bool)
  | string (text : String)
  deriving DecidableEq, Repr

/-- A value given to an annotation element. -/
inductive ElementValue (τ : Type) where
  | const (value : ConstValue)
  | enumConst (type : τ) (name : String)
  | classLiteral (type : τ)
  | nested (descriptor : String) (type : τ) (elements : List (String × ElementValue τ))
  | array (values : List (ElementValue τ))
  deriving Repr

/-- An annotation: its type, as written and as a reference, and the values of its elements. -/
structure AnnotationTree (τ : Type) where
  descriptor : String
  type : τ
  elements : List (String × ElementValue τ)
  deriving Repr

variable {τ σ : Type}

namespace ElementValue

mutual

/-- Exchanges the type references of a value. -/
def map (f : τ → σ) : ElementValue τ → ElementValue σ
  | .const value => .const value
  | .enumConst type name => .enumConst (f type) name
  | .classLiteral type => .classLiteral (f type)
  | .nested descriptor type elements => .nested descriptor (f type) (mapElements f elements)
  | .array values => .array (mapValues f values)

/-- Exchanges the type references of named values. -/
def mapElements (f : τ → σ) : List (String × ElementValue τ) → List (String × ElementValue σ)
  | [] => []
  | (name, value) :: rest => (name, value.map f) :: mapElements f rest

/-- Exchanges the type references of a list of values. -/
def mapValues (f : τ → σ) : List (ElementValue τ) → List (ElementValue σ)
  | [] => []
  | value :: rest => value.map f :: mapValues f rest

end

mutual

/-- The types that a value mentions: enum types, class literals, and nested annotations with what
they mention in turn. -/
def types : ElementValue τ → List τ
  | .const _ => []
  | .enumConst type _ => [type]
  | .classLiteral type => [type]
  | .nested _ type elements => type :: typesOfElements elements
  | .array values => typesOfValues values

/-- The types that named values mention. -/
def typesOfElements : List (String × ElementValue τ) → List τ
  | [] => []
  | (_, value) :: rest => value.types ++ typesOfElements rest

/-- The types that a list of values mentions. -/
def typesOfValues : List (ElementValue τ) → List τ
  | [] => []
  | value :: rest => value.types ++ typesOfValues rest

end

/-- The annotation that a value is, if it is one. -/
def asNested? : ElementValue τ → Option (AnnotationTree τ)
  | .nested descriptor type elements => some ⟨descriptor, type, elements⟩
  | _ => none

end ElementValue

namespace AnnotationTree

/-- Exchanges the type references of an annotation. -/
def map (f : τ → σ) (a : AnnotationTree τ) : AnnotationTree σ :=
  ⟨a.descriptor, f a.type, ElementValue.mapElements f a.elements⟩

/-- The types that an annotation mentions, its own first. -/
def types (a : AnnotationTree τ) : List τ := a.type :: ElementValue.typesOfElements a.elements

/-- The value of the first element of a name. -/
def value? (a : AnnotationTree τ) (name : String) : Option (ElementValue τ) :=
  (a.elements.find? fun element => element.1 == name).map (·.2)

end AnnotationTree

end TypeAtlas
