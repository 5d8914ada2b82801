import TypeAtlas.Graph.Basic
import TypeAtlas.Graph.Walk

/-!
# The hierarchy of types

Walks up and down the edges of a graph: a type has at most one supertype and any number of
interfaces. Nothing is assumed of the declarations behind the graph, which may form cycles.
-/

set_option autoImplicit false

namespace TypeAtlas.Graph

variable (g : Graph)

/-- The number of types. -/
def typeCount : Nat := g.types.size

/-- The node of a type name. -/
def find? (name : String) : Option TypeNode := (g.names.find? name).bind (g.types[·]?)

/-- The superclass of a type. The root has none, and neither have primitive types. -/
def supertype? (id : TypeId) : Option TypeId := g.types[id]?.bind TypeNode.supertype

/-- The interfaces that a type names itself. -/
def interfaces (id : TypeId) : List TypeId :=
  match g.types[id]? with
  | some node => node.interfaces
  | none => []

/-- The types that name a type as their superclass or as an interface. -/
def subClasses (id : TypeId) : List TypeId :=
  match g.types[id]? with
  | some node => node.subtypes
  | none => []

/-- The chain of superclasses, nearest first. -/
def superClasses (id : TypeId) : List TypeId := Walk.chain g.typeCount g.supertype? [id] id

/-- The interfaces from which a search for those of a type starts: its own, then those of each of
its superclasses in turn. -/
def startInterfaces (id : TypeId) : List TypeId :=
  g.interfaces id ++ (g.superClasses id).flatMap g.interfaces

/-- Every interface of a type and of its superclasses, breadth first. -/
def allInterfaces (id : TypeId) : List TypeId :=
  Walk.breadthFirst g.typeCount g.interfaces (· == id) [] (g.startInterfaces id)

/-- The chain of superclasses, and after it the interfaces that are not in it. -/
def allSupertypes (id : TypeId) : List TypeId :=
  let above := g.superClasses id
  above ++ (g.allInterfaces id).filter fun interface => interface ∉ above

/-- Every type below a type, breadth first. -/
def allSubClasses (id : TypeId) : List TypeId :=
  Walk.breadthFirst g.typeCount g.subClasses (fun _ => false) [id] (g.subClasses id)

/-- Whether values of a type are values of another. -/
def isAssignableTo (id other : TypeId) : Bool := id == other || (g.allSupertypes id).contains other

end TypeAtlas.Graph
