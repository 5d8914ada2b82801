import TypeAtlas.ClassRecord
import TypeAtlas.Graph.NameTable

/-!
# The type graph

A graph holds every type that some class mentions, whether or not the class that declares it was
there to be linked: types without a declaration are stubs, known by name only. Nodes of the five
sorts are numbered and refer to each other by number.
-/

set_option autoImplicit false

namespace TypeAtlas

/-- The number of a type in a graph. -/
abbrev TypeId := Nat

/-- The number of a member in a graph. -/
abbrev MemberId := Nat

/-- The number of an annotation in a graph. -/
abbrev AnnotationId := Nat

/-- The number of an access target in a graph. -/
abbrev TargetId := Nat

/-- The number of an access in a graph. -/
abbrev AccessId := Nat

/-- The name of the type that every chain of superclasses ends with. -/
def rootName : String := "java.lang.Object"

/-- The kinds of types. -/
inductive TypeKind where
  | plain | interface | enumeration | annotationType | primitive | array
  deriving DecidableEq, Repr

/-- The kind of a declared type. -/
def TypeKind.ofClassKind : ClassKind → TypeKind
  | .plain => .plain
  | .interface => .interface
  | .enumeration => .enumeration
  | .annotationType => .annotationType

/-- The name of a kind. -/
def TypeKind.name : TypeKind → String
  | .plain => "Class"
  | .interface => "Interface"
  | .enumeration => "Enum"
  | .annotationType => "Annotation"
  | .primitive => "Primitive"
  | .array => "Array"

/-- A type. -/
structure TypeNode where
  id : TypeId
  name : String
  simpleName : String
  packageName : String
  kind : TypeKind
  modifiers : Modifiers
  /-- Whether the type was linked from its declaration, and is not known by name only. -/
  fullyImported : Bool
  supertype : Option TypeId
  interfaces : List TypeId
  enclosingType : Option TypeId
  /-- The type with one dimension less, for an array type. -/
  componentType : Option TypeId
  sourceFile : Option String
  signature : Option String
  members : List MemberId
  annotations : List AnnotationId
  /-- The types that name this one as their superclass or as an interface. -/
  subtypes : List TypeId
  deriving Repr

namespace TypeNode

/-- Whether a type is an interface; annotation types are. -/
def isInterface (node : TypeNode) : Bool :=
  node.kind == .interface || node.kind == .annotationType

/-- Whether a type is an array type. -/
def isArray (node : TypeNode) : Bool := node.kind == .array

/-- Whether a type is primitive. -/
def isPrimitive (node : TypeNode) : Bool := node.kind == .primitive

end TypeNode

/-- The kinds of members. -/
inductive MemberKind where
  | field | method | constructor | staticInitializer
  deriving DecidableEq, Repr

/-- The kind of a code unit as a member. -/
def MemberKind.ofCodeUnit : CodeUnitKind → MemberKind
  | .method => .method
  | .constructor => .constructor
  | .staticInitializer => .staticInitializer

/-- A field or a code unit of a linked class. -/
structure MemberNode where
  id : MemberId
  owner : TypeId
  kind : MemberKind
  name : String
  /-- `Owner.name` for a field, `Owner.name(p1, p2)` for a code unit. -/
  fullName : String
  descriptor : String
  /-- The types of the parameters; none for a field. -/
  parameters : List TypeId
  /-- The type of a field, or the result of a code unit. -/
  returnType : TypeId
  throws : List TypeId
  modifiers : Modifiers
  signature : Option String
  annotations : List AnnotationId
  /-- The accesses that the body makes, in order. -/
  accesses : List AccessId
  deriving Repr

/-- Whether a member is a code unit. -/
def MemberNode.isCodeUnit (node : MemberNode) : Bool := node.kind != .field

/-- What an annotation is attached to. -/
inductive AnnotationOwner where
  | type (id : TypeId)
  | member (id : MemberId)
  deriving DecidableEq, Repr

/-- An annotation of a type or a member. -/
structure AnnotationNode where
  id : AnnotationId
  owner : AnnotationOwner
  tree : AnnotationTree TypeId
  deriving Repr

/-- The kinds of members that an access can aim at. -/
inductive TargetKind where
  | field | method | constructor
  deriving DecidableEq, Repr

/-- The kind of member that a target of a kind denotes. -/
def TargetKind.memberKind : TargetKind → MemberKind
  | .field => .field
  | .method => .method
  | .constructor => .constructor

/-- The word for a kind of target. -/
def TargetKind.word : TargetKind → String
  | .field => "field"
  | .method => "method"
  | .constructor => "constructor"

/-- The owner, name and descriptor that accesses aim at. No two targets of a graph agree in kind,
owner, name and descriptor. -/
structure AccessTarget where
  id : TargetId
  kind : TargetKind
  /-- The owner as the instruction states it, which need not declare the member. -/
  owner : TypeId
  name : String
  descriptor : String
  parameters : List TypeId
  /-- The type of a field, or the result of a code unit. -/
  returnType : TypeId
  fullName : String
  deriving Repr

/-- The kind and the full name of a target. -/
def AccessTarget.description (target : AccessTarget) : String :=
  target.kind.word ++ " <" ++ target.fullName ++ ">"

/-- The kinds of accesses. -/
inductive AccessKind where
  | fieldRead | fieldWrite | methodCall | constructorCall
  deriving DecidableEq, Repr

/-- Whether an access reads or writes a field. -/
def AccessKind.isFieldAccess (kind : AccessKind) : Bool :=
  kind == .fieldRead || kind == .fieldWrite

/-- One field access or call in the body of a member. -/
structure Access where
  id : AccessId
  origin : MemberId
  target : TargetId
  kind : AccessKind
  /-- The source line, zero if it is not known. -/
  line : UInt16
  deriving DecidableEq, Repr

/-- A type graph. -/
structure Graph where
  /-- The names of the types, in the order of their numbers. -/
  names : NameTable
  types : Array TypeNode
  members : Array MemberNode
  annotations : Array AnnotationNode
  targets : Array AccessTarget
  accesses : Array Access
  root : TypeId
  deriving Repr

end TypeAtlas
