import TypeAtlas.Graph.Bucket
import TypeAtlas.Graph.Duplicate
import TypeAtlas.Graph.Mention

/-!
# Linking

`Graph.link` turns class records into a graph. First every name is numbered (`mentions`); after
that each node is determined by the records and the numbers alone. Members, annotations and
accesses are numbered in the order in which they stand in the records (`Numbering`), targets in the
order of the first access that aims at them.
-/

set_option autoImplicit false

namespace TypeAtlas

open ClassFile (MemberReference)

/-! ## Targets -/

/-- What tells access targets apart. -/
structure TargetKey where
  kind : TargetKind
  owner : String
  name : String
  descriptor : String
  deriving DecidableEq, Repr

/-- The kind of member that a reference aims at. -/
def targetKind (r : MemberReference) : TargetKind :=
  if r.kind.isFieldAccess then .field
  else if r.isConstructorCall then .constructor
  else .method

/-- The kind of access that a reference makes. -/
def accessKind (r : MemberReference) : AccessKind :=
  if r.kind.isFieldAccess then
    if r.kind.isWrite then .fieldWrite else .fieldRead
  else if r.isConstructorCall then .constructorCall
  else .methodCall

/-- The key of the target that a reference aims at. -/
def targetKey (r : MemberReference) : TargetKey := ⟨targetKind r, r.owner, r.name, r.descriptor⟩

/-- The references of classes, in order. -/
def references (classes : List ClassRecord) : List MemberReference :=
  classes.flatMap fun c => c.declaredMembers.flatMap (·.references)

/-- The first reference to each target, in order. -/
def targetReferences (classes : List ClassRecord) : List MemberReference :=
  distinctOn targetKey (references classes)

/-! ## Full names -/

/-- The full name of a code unit. -/
def codeUnitFullName (owner name : String) (parameterTypes : List String) : String :=
  owner ++ "." ++ name ++ "(" ++ ", ".intercalate parameterTypes ++ ")"

/-- The full name of a field. -/
def fieldFullName (owner name : String) : String := owner ++ "." ++ name

/-! ## Numbering -/

/-- How many members, annotations and accesses come before a place in the records. -/
structure Numbering where
  members : Nat := 0
  annotations : Nat := 0
  accesses : Nat := 0
  deriving DecidableEq, Repr

/-- The numbering after the annotations of a class itself. -/
def Numbering.pastHead (n : Numbering) (c : ClassRecord) : Numbering :=
  { n with annotations := n.annotations + c.annotations.length }

/-- The numbering after a member. -/
def Numbering.pastMember (n : Numbering) (m : DeclaredMember) : Numbering :=
  ⟨n.members + 1, n.annotations + m.annotations.length, n.accesses + m.references.length⟩

/-- A member and the numbering before it. -/
structure PlacedMember where
  start : Numbering
  member : DeclaredMember

/-- Places members one after another. -/
def placeMembers (start : Numbering) : List DeclaredMember → List PlacedMember
  | [] => []
  | m :: rest => ⟨start, m⟩ :: placeMembers (start.pastMember m) rest

/-- A class, the numbering before it, and its members. -/
structure PlacedClass where
  start : Numbering
  record : ClassRecord
  members : List PlacedMember

/-- Places classes one after another; the annotations of a class come before its members. -/
def placeClasses (start : Numbering) : List ClassRecord → List PlacedClass
  | [] => []
  | c :: rest =>
    let inside := start.pastHead c
    ⟨start, c, placeMembers inside c.declaredMembers⟩ ::
      placeClasses (c.declaredMembers.foldl Numbering.pastMember inside) rest

/-- Consecutive numbers for a list, from a first one on. -/
def numbersFor {α : Type} (first : Nat) (list : List α) : List Nat := List.range' first list.length

/-- A list with consecutive numbers, from a first one on. -/
def numbered {α : Type} (first : Nat) (list : List α) : List (Nat × α) :=
  (numbersFor first list).zip list

/-! ## Nodes -/

namespace Link

variable (table : NameTable) (classes : List ClassRecord)

/-- The number of the root. -/
def root : TypeId := table.idOf rootName

/-- The node of a member. -/
def memberNode (owner : ClassRecord) (placed : PlacedMember) : MemberNode :=
  let m := placed.member
  { id := placed.start.members
    owner := table.idOf owner.name
    kind := m.kind
    name := m.name
    fullName :=
      match m.kind with
      | .field => fieldFullName owner.name m.name
      | _ => codeUnitFullName owner.name m.name m.parameterTypes
    descriptor := m.descriptor
    parameters := m.parameterTypes.map table.idOf
    returnType := table.idOf m.valueType
    throws := m.throws.map table.idOf
    modifiers := m.modifiers
    signature := m.signature
    annotations := numbersFor placed.start.annotations m.annotations
    accesses := numbersFor placed.start.accesses m.references }

/-- The nodes of the annotations of one owner. -/
def annotationNodes (first : AnnotationId) (owner : AnnotationOwner)
    (annotations : List (AnnotationTree String)) : List AnnotationNode :=
  (numbered first annotations).map fun (id, tree) => ⟨id, owner, tree.map table.idOf⟩

/-- The nodes of the annotations of a class and of its members. -/
def classAnnotations (placed : PlacedClass) : List AnnotationNode :=
  annotationNodes table placed.start.annotations (.type (table.idOf placed.record.name))
    placed.record.annotations ++
  placed.members.flatMap fun m =>
    annotationNodes table m.start.annotations (.member m.start.members) m.member.annotations

/-- The nodes of the access targets. -/
def targetNodes : List AccessTarget :=
  (numbered 0 (targetReferences classes)).map fun (id, r) =>
    { id
      kind := targetKind r
      owner := table.idOf r.owner
      name := r.name
      descriptor := r.descriptor
      parameters := r.parameterTypes.map table.idOf
      returnType := table.idOf r.valueType
      fullName :=
        match targetKind r with
        | .field => fieldFullName r.owner r.name
        | _ => codeUnitFullName r.owner r.name r.parameterTypes }

/-- The number of the target that a reference aims at, among the keys of all targets. -/
def targetOf (keys : List TargetKey) (r : MemberReference) : TargetId := keys.idxOf (targetKey r)

/-- The accesses of a member. -/
def memberAccesses (keys : List TargetKey) (placed : PlacedMember) : List Access :=
  (numbered placed.start.accesses placed.member.references).map fun (id, r) =>
    ⟨id, placed.start.members, targetOf keys r, accessKind r, r.line⟩

/-- The names that are used as interfaces: by being implemented, or by being called through an
interface's method reference. -/
def interfaceUses : List String :=
  classes.flatMap (·.interfaces) ++
    ((references classes).filter (·.ownerIsInterface)).map (·.owner)

/-- The node of a linked class. Only the root may lack a supertype: any other class without a
superclass is put below the root. -/
def importedNode (id : TypeId) (placed : PlacedClass) : TypeNode :=
  let c := placed.record
  { id
    name := c.name
    simpleName := c.simpleName
    packageName := c.packageName
    kind := TypeKind.ofClassKind c.kind
    modifiers := c.modifiers
    fullyImported := true
    supertype :=
      match c.superClass with
      | some name => some (table.idOf name)
      | none => if id = root table then none else some (root table)
    interfaces := c.interfaces.map table.idOf
    enclosingType := c.enclosingClass.map table.idOf
    componentType := none
    sourceFile := c.sourceFile
    signature := c.signature
    members := placed.members.map (·.start.members)
    annotations := numbersFor placed.start.annotations c.annotations
    subtypes := [] }

/-- The kind of a type that is known by name only. -/
def stubKind (uses : List String) (name : String) : TypeKind :=
  if (Text.componentOf name).isSome then .array
  else if Text.primitiveWords.contains name then .primitive
  else if uses.contains name then .interface
  else .plain

/-- The node of a type that is known by name only. -/
def stubNode (uses : List String) (id : TypeId) (name : String) : TypeNode :=
  let kind := stubKind uses name
  { id
    name
    simpleName := Text.simpleNameOf name
    packageName := Text.packageOf name
    kind
    modifiers := Modifiers.none
    fullyImported := false
    supertype := if id = root table ∨ kind = .primitive then none else some (root table)
    interfaces := []
    enclosingType := none
    componentType := (Text.componentOf name).bind table.find?
    sourceFile := none
    signature := none
    members := []
    annotations := []
    subtypes := [] }

/-- The node of a type, its subtypes left open. -/
def typeNode (placed : List PlacedClass) (uses : List String) (id : TypeId) (name : String) :
    TypeNode :=
  match placed.find? fun p => p.record.name == name with
  | some p => importedNode table id p
  | none => stubNode table uses id name

/-- The edges from a type to the types directly above it, each once. -/
def upwardEdges (node : TypeNode) : List (TypeId × TypeId) :=
  (distinct (node.supertype.toList ++ node.interfaces)).map fun above => (above, node.id)

/-- Enters into each node the types directly below it. -/
def withSubtypes (nodes : List TypeNode) : List TypeNode :=
  let below := distribute nodes.length (nodes.flatMap upwardEdges)
  nodes.map fun node => { node with subtypes := below[node.id]?.getD [] }

/-- The type nodes, in the order of their numbers. -/
def typeNodes (placed : List PlacedClass) : List TypeNode :=
  let uses := interfaceUses classes
  withSubtypes ((numbered 0 table.names).map fun (id, name) => typeNode table placed uses id name)

end Link

/-- The graph of classes of different names, given a table in which all their names are
numbered. -/
def Graph.build (table : NameTable) (classes : List ClassRecord) : Graph :=
  let placed := placeClasses {} classes
  let keys := (targetReferences classes).map targetKey
  { names := table
    types := (Link.typeNodes table classes placed).toArray
    members := (placed.flatMap fun p => p.members.map (Link.memberNode table p.record)).toArray
    annotations := (placed.flatMap (Link.classAnnotations table)).toArray
    targets := (Link.targetNodes table classes).toArray
    accesses := (placed.flatMap fun p => p.members.flatMap (Link.memberAccesses keys)).toArray
    root := Link.root table }

/-- The graph of classes. Names that are numbered already keep their numbers. -/
def Graph.link (table : NameTable) (policy : DuplicatePolicy) (classes : List ClassRecord) :
    Except IdentityConflict Graph :=
  (ClassRecord.dedupe policy classes).map fun kept =>
    Graph.build (table.insertAll (mentions kept)) kept

end TypeAtlas
