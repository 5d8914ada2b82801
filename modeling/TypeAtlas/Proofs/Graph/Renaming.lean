import Mathlib.Data.Option.Basic
import TypeAtlas.Proofs.Graph.Search
import TypeAtlas.Graph.Dependency
import TypeAtlas.Graph.ReverseIndex

/-!
# Graphs that differ in their numbers only

A renaming exchanges the numbers of each sort of node. Two graphs are the same up to a renaming
(`Graph.SameUpTo`) if it carries the nodes of the one to the nodes of the other; only the order in
which a node lists the types directly below it may differ. Then every walk and every look into the
graphs gives the same answers up to the renaming.
-/

set_option autoImplicit false

namespace TypeAtlas

/-- New numbers for the nodes of each sort. -/
structure Renaming where
  types : Equiv.Perm TypeId
  members : Equiv.Perm MemberId
  annotations : Equiv.Perm AnnotationId
  targets : Equiv.Perm TargetId
  accesses : Equiv.Perm AccessId

/-! ## Renamed nodes -/

section Nodes

variable (ρ : Renaming)

/-- A renamed type; the types below it are listed anew. -/
def TypeNode.rename (subtypes : List TypeId) (node : TypeNode) : TypeNode :=
  { node with
    id := ρ.types node.id
    supertype := node.supertype.map ρ.types
    interfaces := node.interfaces.map ρ.types
    enclosingType := node.enclosingType.map ρ.types
    componentType := node.componentType.map ρ.types
    members := node.members.map ρ.members
    annotations := node.annotations.map ρ.annotations
    subtypes }

def MemberNode.rename (m : MemberNode) : MemberNode :=
  { m with
    id := ρ.members m.id
    owner := ρ.types m.owner
    parameters := m.parameters.map ρ.types
    returnType := ρ.types m.returnType
    throws := m.throws.map ρ.types
    annotations := m.annotations.map ρ.annotations
    accesses := m.accesses.map ρ.accesses }

def AnnotationOwner.rename : AnnotationOwner → AnnotationOwner
  | .type id => .type (ρ.types id)
  | .member id => .member (ρ.members id)

def AnnotationNode.rename (a : AnnotationNode) : AnnotationNode :=
  ⟨ρ.annotations a.id, a.owner.rename ρ, a.tree.map ρ.types⟩

def AccessTarget.rename (target : AccessTarget) : AccessTarget :=
  { target with
    id := ρ.targets target.id
    owner := ρ.types target.owner
    parameters := target.parameters.map ρ.types
    returnType := ρ.types target.returnType }

def Access.rename (a : Access) : Access :=
  { a with
    id := ρ.accesses a.id
    origin := ρ.members a.origin
    target := ρ.targets a.target }

def Evidence.rename : Evidence → Evidence
  | .access id => .access (ρ.accesses id)
  | .superclass => .superclass
  | .interface => .interface
  | .annotated id => .annotated (ρ.annotations id)
  | .fieldType member => .fieldType (ρ.members member)
  | .parameterType member => .parameterType (ρ.members member)
  | .returnType member => .returnType (ρ.members member)
  | .throws member => .throws (ρ.members member)

def Dependency.rename (d : Dependency) : Dependency :=
  ⟨ρ.types d.origin, ρ.types d.target, d.first.rename ρ, d.further.map (Evidence.rename ρ)⟩

/-- A node is the renamed image of another one, up to the order of the types below it. -/
def TypeNode.SameUpTo (node other : TypeNode) : Prop :=
  other.subtypes.Perm (node.subtypes.map ρ.types) ∧ other = node.rename ρ other.subtypes

end Nodes

/-- A renaming carries the nodes of a graph to those of another one. -/
structure Graph.SameUpTo (ρ : Renaming) (g h : Graph) : Prop where
  root : h.root = ρ.types g.root
  names : ∀ id, h.names.names[ρ.types id]? = g.names.names[id]?
  numbers : ∀ name, h.names.find? name = (g.names.find? name).map ρ.types
  types : ∀ id, Option.Rel (TypeNode.SameUpTo ρ) g.types[id]? h.types[ρ.types id]?
  members : ∀ id, h.members[ρ.members id]? = g.members[id]?.map (MemberNode.rename ρ)
  annotations : ∀ id,
    h.annotations[ρ.annotations id]? = g.annotations[id]?.map (AnnotationNode.rename ρ)
  targets : ∀ id, h.targets[ρ.targets id]? = g.targets[id]?.map (AccessTarget.rename ρ)
  accesses : ∀ id, h.accesses[ρ.accesses id]? = g.accesses[id]?.map (Access.rename ρ)

namespace Graph.SameUpTo

variable {ρ : Renaming} {g h : Graph} (S : SameUpTo ρ g h)
include S

/-! ## Types -/

/-- A number stands for a type in both graphs or in neither. -/
theorem types_cases (id : TypeId) :
    (g.types[id]? = none ∧ h.types[ρ.types id]? = none) ∨
      ∃ node subtypes, subtypes.Perm (node.subtypes.map ρ.types) ∧ g.types[id]? = some node ∧
        h.types[ρ.types id]? = some (node.rename ρ subtypes) := by
  have hrel := S.types id
  -- the relation is split by its two sides, which are not variables yet
  generalize g.types[id]? = left, h.types[ρ.types id]? = right at hrel
  cases hrel with
  | none => exact Or.inl ⟨rfl, rfl⟩
  | some hnode =>
    rename_i node other
    obtain ⟨hperm, hother⟩ := hnode
    exact Or.inr ⟨node, other.subtypes, hperm, rfl, congrArg some hother⟩

theorem lt_typeCount_iff (id : TypeId) : ρ.types id < h.typeCount ↔ id < g.typeCount := by
  unfold typeCount
  rcases S.types_cases id with ⟨hg, hh⟩ | ⟨node, subtypes, -, hg, hh⟩
  · rw [Array.getElem?_eq_none_iff] at hg hh
    exact iff_of_false (Nat.not_lt_of_ge hh) (Nat.not_lt_of_ge hg)
  · have hlt := (Array.getElem?_eq_some_iff.1 hg).1
    have hlt' := (Array.getElem?_eq_some_iff.1 hh).1
    exact iff_of_true hlt' hlt

theorem supertype?_rename (id : TypeId) :
    h.supertype? (ρ.types id) = (g.supertype? id).map ρ.types := by
  rcases S.types_cases id with ⟨hg, hh⟩ | ⟨node, subtypes, -, hg, hh⟩
  · simp only [supertype?, hg, hh, Option.bind_none, Option.map_none]
  · simp only [supertype?, hg, hh, Option.bind_some, TypeNode.rename]

theorem interfaces_rename (id : TypeId) :
    h.interfaces (ρ.types id) = (g.interfaces id).map ρ.types := by
  rcases S.types_cases id with ⟨hg, hh⟩ | ⟨node, subtypes, -, hg, hh⟩
  · simp only [interfaces, hg, hh, List.map_nil]
  · simp only [interfaces, hg, hh, TypeNode.rename]

theorem subClasses_rename (id : TypeId) :
    (h.subClasses (ρ.types id)).Perm ((g.subClasses id).map ρ.types) := by
  rcases S.types_cases id with ⟨hg, hh⟩ | ⟨node, subtypes, hperm, hg, hh⟩
  · simp only [subClasses, hg, hh, List.map_nil, List.Perm.refl]
  · simp only [subClasses, hg, hh]
    exact hperm

theorem isInterfaceType_rename (id : TypeId) :
    h.isInterfaceType (ρ.types id) = g.isInterfaceType id := by
  rcases S.types_cases id with ⟨hg, hh⟩ | ⟨node, subtypes, -, hg, hh⟩
  · simp only [isInterfaceType, hg, hh]
  · simp only [isInterfaceType, hg, hh, TypeNode.rename, TypeNode.isInterface]

/-- Renamed types have the same names. -/
theorem typeNames_rename (ids : List TypeId) :
    h.typeNames (ids.map ρ.types) = g.typeNames ids := by
  unfold typeNames
  rw [List.map_map]
  apply List.map_congr_left
  intro id _
  rw [Function.comp_apply]
  rcases S.types_cases id with ⟨hg, hh⟩ | ⟨node, subtypes, -, hg, hh⟩
  · rw [hg, hh, Option.map_none]
  · rw [hg, hh, Option.map_some, Option.map_some, TypeNode.rename]

theorem find?_rename (name : String) :
    Option.Rel (TypeNode.SameUpTo ρ) (g.find? name) (h.find? name) := by
  unfold find?
  rw [S.numbers]
  cases g.names.find? name with
  | none => exact .none
  | some id => exact S.types id

/-! ## Walks -/

theorem superClasses_rename (id : TypeId) :
    h.superClasses (ρ.types id) = (g.superClasses id).map ρ.types :=
  Walk.chain_map S.lt_typeCount_iff S.supertype?_rename [id] id

theorem startInterfaces_rename (id : TypeId) :
    h.startInterfaces (ρ.types id) = (g.startInterfaces id).map ρ.types := by
  unfold startInterfaces
  rw [S.interfaces_rename, S.superClasses_rename, List.flatMap_map, List.map_append,
    List.map_flatMap]
  simp only [S.interfaces_rename]

theorem allInterfaces_rename (id : TypeId) :
    h.allInterfaces (ρ.types id) = (g.allInterfaces id).map ρ.types := by
  -- the search skips the type itself, and renumbering keeps it apart
  have hskip : ∀ a, (ρ.types a == ρ.types id) = (a == id) := fun a => by
    rw [Bool.eq_iff_iff, beq_iff_eq, beq_iff_eq, ρ.types.apply_eq_iff_eq]
  unfold allInterfaces
  rw [S.startInterfaces_rename]
  exact Walk.breadthFirst_map S.lt_typeCount_iff hskip S.interfaces_rename [] _

theorem allSupertypes_rename (id : TypeId) :
    h.allSupertypes (ρ.types id) = (g.allSupertypes id).map ρ.types := by
  simp only [allSupertypes]
  rw [S.superClasses_rename, S.allInterfaces_rename, List.map_append, List.filter_map]
  simp only [Function.comp_def, List.mem_map_of_injective ρ.types.injective]

theorem allSubClasses_rename (id : TypeId) :
    (h.allSubClasses (ρ.types id)).Perm ((g.allSubClasses id).map ρ.types) := by
  -- what lies below is listed in another order, so the walks agree as sets only
  show (Walk.breadthFirst h.typeCount h.subClasses (fun _ => false) ([id].map ρ.types)
    (h.subClasses (ρ.types id))).Perm ((Walk.breadthFirst g.typeCount g.subClasses
      (fun _ => false) [id] (g.subClasses id)).map ρ.types)
  exact Walk.breadthFirst_perm S.lt_typeCount_iff (fun _ => rfl) S.subClasses_rename
    (S.subClasses_rename id)

theorem isAssignableTo_rename (id other : TypeId) :
    h.isAssignableTo (ρ.types id) (ρ.types other) = g.isAssignableTo id other := by
  unfold isAssignableTo
  rw [S.allSupertypes_rename, Bool.eq_iff_iff]
  simp only [Bool.or_eq_true, beq_iff_eq, List.contains_iff_mem, ρ.types.apply_eq_iff_eq,
    List.mem_map_of_injective ρ.types.injective]

end Graph.SameUpTo

end TypeAtlas
