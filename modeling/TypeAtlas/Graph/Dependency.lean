import TypeAtlas.Graph.Bucket
import TypeAtlas.Graph.Query

/-!
# Dependencies between types

A linked type depends on the types that its declaration and its code mention. There is one
dependency for each such type, with all the evidence for it in the order in which it is found.
Array types stand for their elements; primitive types and the type itself do not count.
-/

set_option autoImplicit false

namespace TypeAtlas

/-- Why a type depends on another one. -/
inductive Evidence where
  /-- The other type is the stated owner of what is accessed. -/
  | access (id : AccessId)
  | superclass
  | interface
  /-- An annotation of the type or of a member mentions the other type. -/
  | annotated (id : AnnotationId)
  | fieldType (member : MemberId)
  | parameterType (member : MemberId)
  | returnType (member : MemberId)
  | throws (member : MemberId)
  deriving DecidableEq, Repr

/-- That a type depends on another one, and why. There is always some evidence. -/
structure Dependency where
  origin : TypeId
  target : TypeId
  first : Evidence
  further : List Evidence
  deriving DecidableEq, Repr

/-- All the evidence of a dependency, in the order in which it is found. -/
def Dependency.evidence (d : Dependency) : List Evidence := d.first :: d.further

namespace Graph

variable (g : Graph)

/-- The component type of an array type. -/
def componentType? (id : TypeId) : Option TypeId := g.types[id]?.bind TypeNode.componentType

/-- The length of a type's name. -/
def nameLength (id : TypeId) : Nat :=
  match g.types[id]? with
  | some node => node.name.length
  | none => 0

/-- The innermost type of an array type, and any other type itself. A component's name is shorter
than the array's. -/
def elementType (id : TypeId) : TypeId :=
  match g.componentType? id with
  | some component =>
    if shorter : g.nameLength component < g.nameLength id then
      have := shorter
      elementType component
    else component
  | none => id
termination_by g.nameLength id

/-- Whether a type is primitive. -/
def isPrimitiveType (id : TypeId) : Bool :=
  match g.types[id]? with
  | some node => node.isPrimitive
  | none => false

/-- The types that an annotation mentions, as evidence. -/
def annotationMentions (id : AnnotationId) : List (TypeId × Evidence) :=
  match g.annotations[id]? with
  | some a => a.tree.types.map fun type => (type, .annotated id)
  | none => []

/-- The types in the declaration of a member, as evidence. -/
def memberMentions (m : MemberNode) : List (TypeId × Evidence) :=
  match m.kind with
  | .field => [(m.returnType, .fieldType m.id)]
  | _ =>
    m.parameters.map (fun type => (type, .parameterType m.id)) ++
      (m.returnType, .returnType m.id) ::
      m.throws.map (fun type => (type, .throws m.id))

/-- The stated owner of what an access aims at, as evidence. -/
def accessMention (a : Access) : Option (TypeId × Evidence) :=
  g.targets[a.target]?.map fun target => (target.owner, .access a.id)

/-- Every mention of a type in a linked type, in order: accesses, superclass, interfaces,
annotations of the type and then of its members, and the declarations of its members. -/
def typeMentions (node : TypeNode) : List (TypeId × Evidence) :=
  let members := g.membersOf node.id
  (g.accessesFromType node.id).filterMap g.accessMention ++
    node.supertype.toList.map (fun type => (type, Evidence.superclass)) ++
    node.interfaces.map (fun type => (type, Evidence.interface)) ++
    node.annotations.flatMap g.annotationMentions ++
    members.flatMap (fun m => m.annotations.flatMap g.annotationMentions) ++
    members.flatMap memberMentions

/-- The mentions that count, with array types replaced by their elements. -/
def countedMentions (node : TypeNode) : List (TypeId × Evidence) :=
  ((g.typeMentions node).map fun (type, evidence) => (g.elementType type, evidence)).filter
    fun (type, _) => type != node.id && !g.isPrimitiveType type

/-- Enters a mention into the dependencies found so far. -/
def enterMention (origin : TypeId) (mention : TypeId × Evidence) : List Dependency → List Dependency
  | [] => [⟨origin, mention.1, mention.2, []⟩]
  | d :: rest =>
    if d.target = mention.1 then
      (if mention.2 ∈ d.evidence then d
        else { d with further := d.further ++ [mention.2] }) :: rest
    else d :: enterMention origin mention rest

/-- The dependencies of a type, in the order in which their targets are first mentioned. A type
known by name only has none. -/
def dependencies (id : TypeId) : List Dependency :=
  match g.types[id]? with
  | some node =>
    if node.fullyImported then
      (g.countedMentions node).foldl (fun found mention => enterMention id mention found) []
    else []
  | none => []

end Graph

/-- The dependencies of all types, by origin and by target. -/
structure DependencyIndex where
  outgoing : Array (List Dependency)
  /-- For each target, the origins and the places in the lists of these origins. -/
  incoming : Array (List (TypeId × Nat))
  deriving Repr

namespace DependencyIndex

/-- The places of the dependencies in the lists of their origins, by target. -/
def places (outgoing : List (List Dependency)) : List (TypeId × (TypeId × Nat)) :=
  outgoing.zipIdx.flatMap fun (dependencies, origin) =>
    dependencies.zipIdx.map fun (d, position) => (d.target, (origin, position))

/-- The dependency index of a graph. -/
def ofGraph (g : Graph) : DependencyIndex :=
  let outgoing := (List.range g.types.size).map g.dependencies
  { outgoing := outgoing.toArray
    incoming := distribute g.types.size (places outgoing) }

/-- The dependencies of a type. -/
def dependencies (index : DependencyIndex) (id : TypeId) : List Dependency :=
  index.outgoing[id]?.getD []

/-- The dependencies of other types on a type, by origin. -/
def dependents (index : DependencyIndex) (id : TypeId) : List Dependency :=
  (index.incoming[id]?.getD []).filterMap fun (origin, position) =>
    (index.dependencies origin)[position]?

end DependencyIndex

end TypeAtlas
