import TypeAtlas.Proofs.Graph.Ancestry
import TypeAtlas.Proofs.Graph.Buckets
import TypeAtlas.Proofs.Graph.Renaming

/-!
# Members under a renaming

Graphs that are the same up to a renaming list the same members for a type, in the same order, and
resolve a target to the same member (`resolve_rename`).
-/

set_option autoImplicit false

namespace TypeAtlas

namespace Graph

section Targets

variable (ρ : Renaming) (target : AccessTarget)

theorem fits_rename (kind : MemberKind) (m : MemberNode) :
    fits kind (target.rename ρ) (m.rename ρ) = fits kind target m := by
  rw [Bool.eq_iff_iff]
  simp only [fits, MemberNode.rename, AccessTarget.rename, Bool.and_eq_true, beq_iff_eq,
    (List.map_injective_iff.2 ρ.types.injective).eq_iff]

theorem preferExact_rename (fitting : List MemberNode) :
    preferExact (target.rename ρ) (fitting.map (MemberNode.rename ρ)) =
      (preferExact target fitting).map ρ.members := by
  unfold preferExact
  rw [List.find?_map, List.head?_map, Option.map_map, ← Option.map_or, Option.map_map]
  rfl

end Targets

namespace SameUpTo

variable {ρ : Renaming} {g h : Graph} (S : SameUpTo ρ g h)
include S

/-! ## Members -/

theorem membersOf_rename (id : TypeId) :
    h.membersOf (ρ.types id) = (g.membersOf id).map (MemberNode.rename ρ) := by
  rcases S.types_cases id with ⟨hg, hh⟩ | ⟨node, subtypes, -, hg, hh⟩
  · simp only [membersOf, hg, hh, List.map_nil]
  · simp only [membersOf, hg, hh, TypeNode.rename]
    exact filterMap_map_of_comm S.members node.members

theorem membersOfKind_rename (id : TypeId) (kind : MemberKind) :
    h.membersOfKind (ρ.types id) kind = (g.membersOfKind id kind).map (MemberNode.rename ρ) := by
  unfold membersOfKind
  rw [S.membersOf_rename, List.filter_map]
  rfl

theorem declaringType?_rename (m : MemberId) :
    h.declaringType? (ρ.members m) = (g.declaringType? m).map ρ.types := by
  unfold declaringType?
  rw [S.members, Option.map_map, Option.map_map]
  rfl

theorem accessesFromMember_rename (m : MemberId) :
    h.accessesFromMember (ρ.members m) = (g.accessesFromMember m).map (Access.rename ρ) := by
  unfold accessesFromMember
  rw [S.members]
  cases g.members[m]? with
  | none => rfl
  | some node => exact filterMap_map_of_comm S.accesses node.accesses

theorem accessesFromType_rename (id : TypeId) :
    h.accessesFromType (ρ.types id) = (g.accessesFromType id).map (Access.rename ρ) := by
  rcases S.types_cases id with ⟨hg, hh⟩ | ⟨node, subtypes, -, hg, hh⟩
  · simp only [accessesFromType, hg, hh, List.map_nil]
  · simp only [accessesFromType, hg, hh, TypeNode.rename]
    rw [List.flatMap_map, List.map_flatMap]
    simp only [S.accessesFromMember_rename]

theorem annotationsOf_rename (owner : AnnotationOwner) :
    h.annotationsOf (owner.rename ρ) = (g.annotationsOf owner).map (AnnotationNode.rename ρ) := by
  cases owner with
  | type id =>
    rcases S.types_cases id with ⟨hg, hh⟩ | ⟨node, subtypes, -, hg, hh⟩
    · simp only [annotationsOf, AnnotationOwner.rename, hg, hh, Option.map_none, Option.getD_none,
        List.filterMap_nil, List.map_nil]
    · simp only [annotationsOf, AnnotationOwner.rename, hg, hh, Option.map_some, Option.getD_some,
        TypeNode.rename]
      exact filterMap_map_of_comm S.annotations node.annotations
  | member id =>
    simp only [annotationsOf, AnnotationOwner.rename, S.members]
    cases g.members[id]? with
    | none => rfl
    | some node => exact filterMap_map_of_comm S.annotations node.annotations

/-! ## Resolution -/

theorem findField_rename (target : AccessTarget) (type : TypeId) :
    h.findField (target.rename ρ) (ρ.types type) = (g.findField target type).map ρ.members := by
  unfold findField fields
  rw [S.membersOfKind_rename, List.filter_map, ← preferExact_rename]
  rfl

theorem findCodeUnit_rename (kind : MemberKind) (target : AccessTarget) (type : TypeId) :
    h.findCodeUnit kind (target.rename ρ) (ρ.types type) =
      (g.findCodeUnit kind target type).map ρ.members := by
  have hfits : fits kind (target.rename ρ) ∘ MemberNode.rename ρ = fits kind target :=
    funext (fits_rename ρ target kind)
  unfold findCodeUnit
  rw [S.membersOf_rename, List.filter_map, hfits, preferExact_rename]

theorem isOverriddenBy_rename (m other : MemberId) :
    h.isOverriddenBy (ρ.members m) (ρ.members other) = g.isOverriddenBy m other := by
  unfold isOverriddenBy
  rw [S.declaringType?_rename, S.declaringType?_rename]
  cases g.declaringType? m with
  | none => rfl
  | some d =>
    cases g.declaringType? other with
    | none => rfl
    | some e =>
      -- both tests, of difference and of lying above, compare numbers only
      simp only [Option.map_some, S.allSupertypes_rename]
      rw [Bool.eq_iff_iff]
      simp only [Bool.and_eq_true, bne_iff_ne, ne_eq, ρ.types.apply_eq_iff_eq,
        List.contains_iff_mem, List.mem_map_of_injective ρ.types.injective]

theorem mostSpecific_rename (candidates : List MemberId) :
    h.mostSpecific (candidates.map ρ.members) = (g.mostSpecific candidates).map ρ.members := by
  unfold mostSpecific
  rw [List.find?_map]
  simp only [Function.comp_def, List.any_map, S.isOverriddenBy_rename]

theorem resolveInInterfaces_rename (owner : TypeId) (target : AccessTarget) :
    h.resolveInInterfaces (ρ.types owner) (target.rename ρ) =
      (g.resolveInInterfaces owner target).map ρ.members := by
  simp only [resolveInInterfaces, interfaceCandidates, interfaceSearchOrder_eq]
  rw [S.allInterfaces_rename, filterMap_map_of_comm (S.findCodeUnit_rename .method target),
    S.mostSpecific_rename]

theorem resolveInClasses_rename (owner : TypeId) (target : AccessTarget) :
    h.resolveInClasses (ρ.types owner) (target.rename ρ) =
      (g.resolveInClasses owner target).map ρ.members := by
  unfold resolveInClasses
  -- the owner and its superclasses are searched as one list
  rw [S.superClasses_rename, ← List.map_cons,
    findSome?_map_of_comm (S.findCodeUnit_rename .method target)]

theorem resolveField_rename (target : AccessTarget) :
    h.resolveField (target.rename ρ) = (g.resolveField target).map ρ.members := by
  have howner : (target.rename ρ).owner = ρ.types target.owner := rfl
  simp only [resolveField, howner, S.isInterfaceType_rename, S.allInterfaces_rename,
    S.superClasses_rename]
  rw [← apply_ite (List.map ρ.types), ← List.map_cons,
    findSome?_map_of_comm (S.findField_rename target)]

theorem resolveMethod_rename (target : AccessTarget) :
    h.resolveMethod (target.rename ρ) = (g.resolveMethod target).map ρ.members := by
  have howner : (target.rename ρ).owner = ρ.types target.owner := rfl
  simp only [resolveMethod, howner, S.isInterfaceType_rename, S.findCodeUnit_rename,
    S.resolveInInterfaces_rename, S.resolveInClasses_rename]
  split
  · rw [Option.map_or, Option.map_or]
  · rw [Option.map_or]

/-- A target denotes the same member in both graphs. -/
theorem resolveTarget_rename (target : AccessTarget) :
    h.resolveTarget (target.rename ρ) = (g.resolveTarget target).map ρ.members := by
  have hkind : (target.rename ρ).kind = target.kind := rfl
  unfold resolveTarget
  rw [hkind]
  cases target.kind with
  | field => exact S.resolveField_rename target
  | constructor => exact S.findCodeUnit_rename .constructor target target.owner
  | method => exact S.resolveMethod_rename target

theorem resolve_rename (id : TargetId) :
    h.resolve (ρ.targets id) = (g.resolve id).map ρ.members := by
  unfold resolve
  rw [S.targets]
  cases g.targets[id]? with
  | none => rfl
  | some target => exact S.resolveTarget_rename target

end SameUpTo

end Graph

end TypeAtlas
