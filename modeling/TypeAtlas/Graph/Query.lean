import TypeAtlas.Graph.Hierarchy

/-!
# Looking into a graph

The members, accesses and annotations of types and members.
-/

set_option autoImplicit false

namespace TypeAtlas.Graph

variable (g : Graph)

/-! ## Members -/

/-- The members of a type, in the order of declaration. -/
def membersOf (id : TypeId) : List MemberNode :=
  match g.types[id]? with
  | some node => node.members.filterMap (g.members[·]?)
  | none => []

/-- The members of a type that are of a kind. -/
def membersOfKind (id : TypeId) (kind : MemberKind) : List MemberNode :=
  (g.membersOf id).filter fun m => m.kind == kind

/-- The fields of a type. -/
def fields (id : TypeId) : List MemberNode := g.membersOfKind id .field

/-- The methods of a type. -/
def methods (id : TypeId) : List MemberNode := g.membersOfKind id .method

/-- The constructors of a type. -/
def constructors (id : TypeId) : List MemberNode := g.membersOfKind id .constructor

/-- The first static initializer of a type. -/
def staticInitializer? (id : TypeId) : Option MemberNode :=
  (g.membersOfKind id .staticInitializer).head?

/-- The first field of a name. -/
def field? (id : TypeId) (name : String) : Option MemberNode :=
  (g.fields id).find? fun m => m.name == name

/-- The names of types. -/
def typeNames (ids : List TypeId) : List (Option String) :=
  ids.map fun id => g.types[id]?.map TypeNode.name

/-- The first code unit of a name with parameters of the named types. -/
def codeUnit? (id : TypeId) (name : String) (parameters : List String) : Option MemberNode :=
  (g.membersOf id).find? fun m =>
    m.isCodeUnit && m.name == name && g.typeNames m.parameters == parameters.map some

/-! ## Accesses -/

/-- The accesses that a member makes, in order. -/
def accessesFromMember (id : MemberId) : List Access :=
  match g.members[id]? with
  | some m => m.accesses.filterMap (g.accesses[·]?)
  | none => []

/-- The accesses that the members of a type make. -/
def accessesFromType (id : TypeId) : List Access :=
  match g.types[id]? with
  | some node => node.members.flatMap g.accessesFromMember
  | none => []

/-- The field accesses that the members of a type make. -/
def fieldAccessesFromType (id : TypeId) : List Access :=
  (g.accessesFromType id).filter fun a => a.kind.isFieldAccess

/-- The method calls that the members of a type make. -/
def methodCallsFromType (id : TypeId) : List Access :=
  (g.accessesFromType id).filter fun a => a.kind == .methodCall

/-- The constructor calls that the members of a type make. -/
def constructorCallsFromType (id : TypeId) : List Access :=
  (g.accessesFromType id).filter fun a => a.kind == .constructorCall

/-! ## Annotations -/

/-- The annotations of a type or a member. -/
def annotationsOf (owner : AnnotationOwner) : List AnnotationNode :=
  let ids :=
    match owner with
    | .type id => g.types[id]?.map TypeNode.annotations
    | .member id => g.members[id]?.map MemberNode.annotations
  (ids.getD []).filterMap (g.annotations[·]?)

/-- Whether a type or a member has an annotation of a named type. -/
def isAnnotatedWith (owner : AnnotationOwner) (typeName : String) : Bool :=
  (g.annotationsOf owner).any fun a =>
    match g.types[a.tree.type]? with
    | some node => node.name == typeName
    | none => false

end TypeAtlas.Graph
