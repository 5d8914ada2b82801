import Mathlib.Data.List.Find
import TypeAtlas.Proofs.Graph.Declared
import TypeAtlas.Proofs.Graph.Ancestry

/-!
# Graphs that agree above a type

Which member a target denotes is decided by the owner and the types above it. Two graphs that agree
on a set of types which holds all that lies above its members (`AgreeOn`) therefore give targets
with an owner in the set the same member (`AgreeOn.resolveTarget_eq`). They need not agree on
whether an owner is an interface, if there is nothing to look into but the methods of its
superclasses (`Bare`): then the order of the search makes no difference (`resolveTarget_of_bare`).
-/

set_option autoImplicit false

namespace TypeAtlas

theorem findSome?_congr {α β : Type} {find find' : α → Option β} {list : List α}
    (h : ∀ a ∈ list, find' a = find a) : list.findSome? find' = list.findSome? find := by
  induction list with
  | nil => rfl
  | cons first rest ih =>
    rw [List.findSome?_cons, List.findSome?_cons, h first List.mem_cons_self,
      ih fun a ha => h a (List.mem_cons_of_mem _ ha)]

namespace Graph

/-- Two graphs agree on a set of types: on what lies above them, which is in the set, and on their
members, which know where they belong. -/
structure AgreeOn (S : TypeId → Prop) (g h : Graph) : Prop where
  bounds : ∀ a, S a → a < g.typeCount ∧ a < h.typeCount
  closed : ∀ a b, S a → g.Extends a b → S b
  supertype? : ∀ a, S a → h.supertype? a = g.supertype? a
  interfaces : ∀ a, S a → h.interfaces a = g.interfaces a
  membersOf : ∀ a, S a → h.membersOf a = g.membersOf a
  declaring : ∀ a, S a → ∀ m ∈ g.membersOf a,
    g.declaringType? m.id = some a ∧ h.declaringType? m.id = some a

namespace AgreeOn

variable {S : TypeId → Prop} {g h : Graph} (A : AgreeOn S g h) {a b : TypeId}
include A

theorem of_transGen (ha : S a) (hab : Relation.TransGen g.Extends a b) : S b := by
  induction hab with
  | single hstep => exact A.closed _ _ ha hstep
  | tail _ hstep ih => exact A.closed _ _ ih hstep

theorem bound_iff (a : TypeId) (ha : S a) : a < h.typeCount ↔ a < g.typeCount :=
  iff_of_true (A.bounds a ha).2 (A.bounds a ha).1

/-! ## Walks -/

theorem superClasses_eq (ha : S a) : h.superClasses a = g.superClasses a :=
  Walk.chain_congr A.bound_iff A.supertype? (fun x y hx hxy => A.closed x y hx (Or.inl hxy)) ha

theorem startInterfaces_eq (ha : S a) : h.startInterfaces a = g.startInterfaces a := by
  rw [startInterfaces, A.interfaces a ha, A.superClasses_eq ha, startInterfaces]
  congr 1
  apply List.flatMap_congr
  intro b hb
  exact A.interfaces b (A.of_transGen ha (transGen_of_mem_superClasses hb))

theorem allInterfaces_eq (ha : S a) : h.allInterfaces a = g.allInterfaces a := by
  rw [allInterfaces, A.startInterfaces_eq ha, allInterfaces]
  apply Walk.breadthFirst_congr_next A.bound_iff A.interfaces
  · exact fun x hx y hxy => A.closed x y hx (Or.inr hxy)
  · exact fun b hb => A.of_transGen ha (transGen_of_mem_startInterfaces hb)

theorem allSupertypes_eq (ha : S a) : h.allSupertypes a = g.allSupertypes a := by
  simp only [allSupertypes, A.superClasses_eq ha, A.allInterfaces_eq ha]

/-! ## Searches -/

theorem findField_eq (target : AccessTarget) (ha : S a) :
    h.findField target a = g.findField target a := by
  simp only [findField, fields, membersOfKind, A.membersOf a ha]

theorem findCodeUnit_eq (kind : MemberKind) (target : AccessTarget) (ha : S a) :
    h.findCodeUnit kind target a = g.findCodeUnit kind target a := by
  simp only [findCodeUnit, A.membersOf a ha]

/-- A member of a type of the set is declared by that type in both graphs. -/
theorem declaring_of_findCodeUnit {kind : MemberKind} {target : AccessTarget} {id : MemberId}
    (ha : S a) (hfind : g.findCodeUnit kind target a = some id) :
    g.declaringType? id = some a ∧ h.declaringType? id = some a := by
  obtain ⟨m, hm, rfl, -⟩ := exists_of_findCodeUnit hfind
  exact A.declaring a ha m hm

theorem isOverriddenBy_eq {m other : MemberId}
    (hm : g.declaringType? m = some a ∧ h.declaringType? m = some a)
    (hother : g.declaringType? other = some b ∧ h.declaringType? other = some b) (hb : S b) :
    h.isOverriddenBy m other = g.isOverriddenBy m other := by
  simp only [isOverriddenBy, hm.1, hm.2, hother.1, hother.2, A.allSupertypes_eq hb]

/-- Of candidates that types of the set declare, the same one is most specific in both graphs. -/
theorem mostSpecific_eq {candidates : List MemberId}
    (hcandidates : ∀ m ∈ candidates, ∃ a, S a ∧ g.declaringType? m = some a ∧
      h.declaringType? m = some a) :
    h.mostSpecific candidates = g.mostSpecific candidates := by
  unfold mostSpecific
  apply List.find?_congr
  intro m hm
  obtain ⟨a, -, hma⟩ := hcandidates m hm
  -- another candidate overrides `m` in both graphs or in neither
  have hover : ∀ other ∈ candidates, h.isOverriddenBy m other = g.isOverriddenBy m other := by
    intro other hother
    obtain ⟨b, hb, hotherb⟩ := hcandidates other hother
    exact A.isOverriddenBy_eq hma hotherb hb
  congr 1
  rw [Bool.eq_iff_iff, List.any_eq_true, List.any_eq_true]
  exact exists_congr fun other => and_congr_right fun hother => by rw [hover other hother]

theorem interfaceSearchOrder_subset (ha : S a) : ∀ b ∈ g.interfaceSearchOrder a, S b := by
  intro b hb
  rw [interfaceSearchOrder_eq] at hb
  exact A.of_transGen ha (transGen_of_mem_allInterfaces hb)

theorem interfaceCandidates_eq (target : AccessTarget) (ha : S a) :
    h.interfaceCandidates a target = g.interfaceCandidates a target := by
  rw [interfaceCandidates, interfaceSearchOrder_eq, A.allInterfaces_eq ha,
    ← interfaceSearchOrder_eq, interfaceCandidates]
  apply List.filterMap_congr
  intro b hb
  exact A.findCodeUnit_eq .method target (A.interfaceSearchOrder_subset ha b hb)

theorem resolveInInterfaces_eq (target : AccessTarget) (ha : S a) :
    h.resolveInInterfaces a target = g.resolveInInterfaces a target := by
  rw [resolveInInterfaces, A.interfaceCandidates_eq target ha, resolveInInterfaces]
  apply A.mostSpecific_eq
  intro m hm
  obtain ⟨b, hb, hfind⟩ := List.mem_filterMap.1 hm
  have hS := A.interfaceSearchOrder_subset ha b hb
  exact ⟨b, hS, A.declaring_of_findCodeUnit hS hfind⟩

/-- The owner and its superclasses are in the set. -/
theorem classes_subset (ha : S a) : ∀ b ∈ a :: g.superClasses a, S b := by
  intro b hb
  rcases List.mem_cons.1 hb with rfl | hb
  · exact ha
  · exact A.of_transGen ha (transGen_of_mem_superClasses hb)

theorem resolveInClasses_eq (target : AccessTarget) (ha : S a) :
    h.resolveInClasses a target = g.resolveInClasses a target := by
  rw [resolveInClasses, A.superClasses_eq ha, resolveInClasses]
  apply findSome?_congr
  intro b hb
  exact A.findCodeUnit_eq .method target (A.classes_subset ha b hb)

theorem resolveField_eq {target : AccessTarget} (ha : S target.owner)
    (hinterface : h.isInterfaceType target.owner = g.isInterfaceType target.owner) :
    h.resolveField target = g.resolveField target := by
  simp only [resolveField, hinterface, A.superClasses_eq ha, A.allInterfaces_eq ha]
  apply findSome?_congr
  intro b hb
  apply A.findField_eq target
  cases hkind : g.isInterfaceType target.owner with
  | false =>
    rw [hkind, if_neg Bool.false_ne_true] at hb
    exact A.classes_subset ha b hb
  | true =>
    rw [hkind, if_pos rfl] at hb
    rcases List.mem_cons.1 hb with rfl | hb
    · exact ha
    · exact A.of_transGen ha (transGen_of_mem_allInterfaces hb)

/-- A target with an owner in the set denotes the same member in both graphs, if these agree on
whether the owner is an interface. -/
theorem resolveTarget_eq {target : AccessTarget} (ha : S target.owner)
    (hinterface : h.isInterfaceType target.owner = g.isInterfaceType target.owner) :
    h.resolveTarget target = g.resolveTarget target := by
  unfold resolveTarget
  cases target.kind with
  | field => exact A.resolveField_eq ha hinterface
  | constructor => exact A.findCodeUnit_eq .constructor target ha
  | method =>
    simp only [resolveMethod, hinterface, A.findCodeUnit_eq .method target ha,
      A.resolveInInterfaces_eq target ha, A.resolveInClasses_eq target ha]

end AgreeOn

/-! ## Bare owners -/

/-- A type without members and interfaces, whose superclasses have neither interfaces nor fields. -/
structure Bare (g : Graph) (type : TypeId) : Prop where
  membersOf : g.membersOf type = []
  interfaces : g.interfaces type = []
  above : ∀ b ∈ g.superClasses type, g.interfaces b = [] ∧ g.fields b = []

section Bare

variable {g : Graph} {target : AccessTarget} {type : TypeId}

theorem Bare.startInterfaces_eq (hbare : g.Bare type) : g.startInterfaces type = [] := by
  rw [startInterfaces, hbare.interfaces, List.nil_append, List.flatMap_eq_nil_iff]
  exact fun b hb => (hbare.above b hb).1

theorem Bare.allInterfaces_eq (hbare : g.Bare type) : g.allInterfaces type = [] := by
  rw [allInterfaces, hbare.startInterfaces_eq, Walk.breadthFirst]

theorem Bare.resolveInInterfaces_eq (hbare : g.Bare type) (target : AccessTarget) :
    g.resolveInInterfaces type target = none := by
  rw [resolveInInterfaces, interfaceCandidates, interfaceSearchOrder_eq, hbare.allInterfaces_eq]
  rfl

theorem Bare.findCodeUnit_eq (hbare : g.Bare type) (kind : MemberKind) (target : AccessTarget) :
    g.findCodeUnit kind target type = none := by
  rw [findCodeUnit, hbare.membersOf]
  rfl

theorem Bare.findField_eq (hbare : g.Bare type) (target : AccessTarget) :
    g.findField target type = none := by
  rw [findField, fields, membersOfKind, hbare.membersOf]
  rfl

/-- For a bare owner it makes no difference whether it is an interface: only the methods of its
superclasses can be denoted. -/
theorem resolveTarget_of_bare (hbare : g.Bare target.owner) :
    g.resolveTarget target =
      if target.kind = .method then g.resolveInClasses target.owner target else none := by
  unfold resolveTarget
  cases target.kind with
  | field =>
    have habove : ∀ b ∈ target.owner :: (if g.isInterfaceType target.owner = true then
        g.allInterfaces target.owner else g.superClasses target.owner),
        g.findField target b = none := by
      intro b hb
      rcases List.mem_cons.1 hb with rfl | hb
      · exact hbare.findField_eq target
      · rw [hbare.allInterfaces_eq] at hb
        split at hb
        · exact absurd hb List.not_mem_nil
        · rw [findField, (hbare.above b hb).2]
          rfl
    exact List.findSome?_eq_none_iff.2 habove
  | constructor => exact hbare.findCodeUnit_eq .constructor target
  | method =>
    simp only [resolveMethod, hbare.resolveInInterfaces_eq, hbare.findCodeUnit_eq, Option.or_none,
      Option.none_or, ite_self, if_true]

theorem AgreeOn.bare {S : TypeId → Prop} {h : Graph} (A : AgreeOn S g h) (htype : S type)
    (hbare : g.Bare type) : h.Bare type where
  membersOf := by rw [A.membersOf type htype, hbare.membersOf]
  interfaces := by rw [A.interfaces type htype, hbare.interfaces]
  above b hb := by
    rw [A.superClasses_eq htype] at hb
    have hS := A.of_transGen htype (transGen_of_mem_superClasses hb)
    obtain ⟨hinterfaces, hfields⟩ := hbare.above b hb
    rw [A.interfaces b hS, fields, membersOfKind, A.membersOf b hS]
    exact ⟨hinterfaces, hfields⟩

/-- A bare owner in the set may be an interface in one of the graphs only. -/
theorem AgreeOn.resolveTarget_eq_of_bare {S : TypeId → Prop} {h : Graph} (A : AgreeOn S g h)
    (howner : S target.owner) (hbare : g.Bare target.owner) :
    h.resolveTarget target = g.resolveTarget target := by
  rw [resolveTarget_of_bare (A.bare howner hbare), resolveTarget_of_bare hbare,
    A.resolveInClasses_eq target howner]

end Bare

end Graph

end TypeAtlas
