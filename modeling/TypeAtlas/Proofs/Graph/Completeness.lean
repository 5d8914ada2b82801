import TypeAtlas.Proofs.Graph.Override

/-!
# When no member is found

A target denotes no member if no type of its search space declares one that matches. That is the
only reason for a field, a constructor, and for any target in a graph without cycles; a method can
also be lost when the interfaces that declare it lie above each other (`resolve_eq_none_iff`). Then
each of them is passed over in favour of another one, as happens when two interfaces extend one
another (`ring_not_complete`).
-/

set_option autoImplicit false

namespace TypeAtlas.Graph

/-- The types in which a member is looked for: for a constructor the owner, for a field the owner
and its superclasses or, if it is an interface, its interfaces, and for a method all of these. -/
def searchSpace (g : Graph) (target : AccessTarget) : List TypeId :=
  match target.kind with
  | .constructor => [target.owner]
  | .field =>
    target.owner ::
      if g.isInterfaceType target.owner then g.allInterfaces target.owner
      else g.superClasses target.owner
  | .method => target.owner :: (g.superClasses target.owner ++ g.allInterfaces target.owner)

/-- Every interface that declares a match lies above another one that does. -/
def EachOverridden (g : Graph) (target : AccessTarget) : Prop :=
  ∀ type ∈ g.allInterfaces target.owner, g.Declares target type →
    ∃ other ∈ g.allInterfaces target.owner,
      other ≠ type ∧ g.Declares target other ∧ type ∈ g.allSupertypes other

/-- A method is declared by interfaces only, and by none that another one does not override. -/
structure Lost (g : Graph) (target : AccessTarget) : Prop where
  method : target.kind = .method
  notInClasses : ∀ type ∈ target.owner :: g.superClasses target.owner, ¬ g.Declares target type
  declared : ∃ type ∈ g.allInterfaces target.owner, g.Declares target type
  overridden : g.EachOverridden target

section Search

variable {g : Graph} {target : AccessTarget}

theorem resolveField_eq_none_iff (hkind : target.kind = .field) :
    g.resolveField target = none ↔ ∀ type ∈ g.searchSpace target, ¬ g.Declares target type := by
  unfold resolveField searchSpace
  rw [List.findSome?_eq_none_iff]
  simp only [hkind, findField_eq_none_iff_not_declares hkind]

theorem resolveConstructor_eq_none_iff (hkind : target.kind = .constructor) :
    g.resolveConstructor target = none ↔
      ∀ type ∈ g.searchSpace target, ¬ g.Declares target type := by
  have hlook : g.findCodeUnit target.kind.memberKind target target.owner = none ↔
      ¬ g.Declares target target.owner :=
    findCodeUnit_eq_none_iff_not_declares (by rw [hkind]; decide)
  unfold resolveConstructor searchSpace
  rw [hkind, TargetKind.memberKind] at hlook
  rw [hlook, hkind]
  simp only [List.mem_singleton, forall_eq]

/-- A look into one type for a method comes back empty exactly if none is declared there. -/
theorem findMethod_eq_none_iff (hkind : target.kind = .method) {type : TypeId} :
    g.findCodeUnit .method target type = none ↔ ¬ g.Declares target type := by
  have hlook : g.findCodeUnit target.kind.memberKind target type = none ↔
      ¬ g.Declares target type :=
    findCodeUnit_eq_none_iff_not_declares (by rw [hkind]; decide)
  rw [hkind, TargetKind.memberKind] at hlook
  exact hlook

theorem exists_findMethod (hkind : target.kind = .method) {type : TypeId}
    (h : g.Declares target type) : ∃ id, g.findCodeUnit .method target type = some id := by
  apply Option.ne_none_iff_exists'.1
  intro hnone
  exact (findMethod_eq_none_iff hkind).1 hnone h

theorem declares_of_findMethod (hkind : target.kind = .method) {type : TypeId} {id : MemberId}
    (h : g.findCodeUnit .method target type = some id) : g.Declares target type := by
  by_contra hnot
  rw [(findMethod_eq_none_iff hkind).2 hnot] at h
  cases h

theorem resolveInClasses_eq_none_iff (hkind : target.kind = .method) :
    g.resolveInClasses target.owner target = none ↔
      ∀ type ∈ target.owner :: g.superClasses target.owner, ¬ g.Declares target type := by
  unfold resolveInClasses
  rw [List.findSome?_eq_none_iff]
  simp only [findMethod_eq_none_iff hkind]

/-- The classes and the interfaces are searched for a method, in whichever order. -/
theorem resolveMethod_eq_none_iff (hkind : target.kind = .method) :
    g.resolveMethod target = none ↔
      (∀ type ∈ target.owner :: g.superClasses target.owner, ¬ g.Declares target type) ∧
        g.resolveInInterfaces target.owner target = none := by
  rw [← resolveInClasses_eq_none_iff hkind]
  simp only [resolveMethod]
  by_cases hinterface : g.isInterfaceType target.owner = true
  · rw [if_pos hinterface, Option.or_eq_none_iff, Option.or_eq_none_iff]
    constructor
    · rintro ⟨⟨-, hinterfaces⟩, hclasses⟩
      exact ⟨hclasses, hinterfaces⟩
    · rintro ⟨hclasses, hinterfaces⟩
      -- the look into the owner itself is one of those into the classes
      refine ⟨⟨?_, hinterfaces⟩, hclasses⟩
      rw [resolveInClasses_eq_none_iff hkind] at hclasses
      exact (findMethod_eq_none_iff hkind).2 (hclasses _ List.mem_cons_self)
  · rw [if_neg hinterface, Option.or_eq_none_iff]

end Search

section Linked

variable {table : NameTable} {classes : List ClassRecord} {target : AccessTarget}

/-- The interfaces give no method exactly if each that declares one lies above another that does. -/
theorem resolveInInterfaces_eq_none_iff (hnodup : table.names.Nodup)
    (hkind : target.kind = .method) :
    (build table classes).resolveInInterfaces target.owner target = none ↔
      (build table classes).EachOverridden target := by
  rw [resolveInInterfaces, mostSpecific, List.find?_eq_none, interfaceCandidates,
    interfaceSearchOrder_eq]
  simp only [Bool.not_eq_true', Bool.not_eq_false, List.any_eq_true, isOverriddenBy_iff]
  constructor
  · intro h type htype hdeclares
    -- the candidate of a type is passed over for one of a type below it
    obtain ⟨m, hm⟩ := exists_findMethod hkind hdeclares
    obtain ⟨o, ho, d, e, hd, he, hne, habove⟩ := h m (List.mem_filterMap.2 ⟨type, htype, hm⟩)
    obtain ⟨other, hother, hfind⟩ := List.mem_filterMap.1 ho
    rw [declaringType?_of_findCodeUnit hnodup hm] at hd
    rw [declaringType?_of_findCodeUnit hnodup hfind] at he
    cases hd
    cases he
    exact ⟨e, hother, hne, declares_of_findMethod hkind hfind, habove⟩
  -- each candidate stands for its declaring type, and that type for a lower one
  · intro h m hm
    obtain ⟨type, htype, hfind⟩ := List.mem_filterMap.1 hm
    obtain ⟨other, hother, hne, hdeclares, habove⟩ :=
      h type htype (declares_of_findMethod hkind hfind)
    obtain ⟨o, ho⟩ := exists_findMethod hkind hdeclares
    exact ⟨o, List.mem_filterMap.2 ⟨other, hother, ho⟩, type, other,
      declaringType?_of_findCodeUnit hnodup hfind, declaringType?_of_findCodeUnit hnodup ho, hne,
      habove⟩

/-- In a graph without cycles, a declared method is not lost. -/
theorem not_lost_of_acyclic (hnodup : table.names.Nodup)
    (hacyclic : (build table classes).Acyclic) : ¬ (build table classes).Lost target := by
  rintro ⟨hkind, -, ⟨type, htype, hdeclares⟩, hoverridden⟩
  rw [← resolveInInterfaces_eq_none_iff hnodup hkind] at hoverridden
  obtain ⟨m, hm⟩ := exists_findMethod hkind hdeclares
  have hmem : m ∈ (build table classes).interfaceCandidates target.owner target := by
    rw [interfaceCandidates, interfaceSearchOrder_eq]
    exact List.mem_filterMap.2 ⟨type, htype, hm⟩
  obtain ⟨choice, hchoice⟩ := exists_mostSpecific hacyclic (List.ne_nil_of_mem hmem)
  rw [resolveInInterfaces, hchoice] at hoverridden
  cases hoverridden

/-- A target denotes no member if nothing in its search space matches, or if the match is lost. -/
theorem resolveTarget_eq_none_iff (hnodup : table.names.Nodup) :
    (build table classes).resolveTarget target = none ↔
      (∀ type ∈ (build table classes).searchSpace target,
        ¬ (build table classes).Declares target type) ∨ (build table classes).Lost target := by
  cases hkind : target.kind with
  | field =>
    -- only methods are lost
    have hnotLost : ¬ (build table classes).Lost target := fun h => by
      rw [h.method] at hkind
      cases hkind
    rw [resolveTarget, hkind, or_iff_left hnotLost]
    exact resolveField_eq_none_iff hkind
  | constructor =>
    have hnotLost : ¬ (build table classes).Lost target := fun h => by
      rw [h.method] at hkind
      cases hkind
    rw [resolveTarget, hkind, or_iff_left hnotLost]
    exact resolveConstructor_eq_none_iff hkind
  | method =>
    rw [resolveTarget, hkind]
    show (build table classes).resolveMethod target = none ↔ _
    rw [resolveMethod_eq_none_iff hkind, resolveInInterfaces_eq_none_iff hnodup hkind, searchSpace,
      hkind]
    show _ ↔ (∀ type ∈ target.owner :: ((build table classes).superClasses target.owner ++
      (build table classes).allInterfaces target.owner), _) ∨ _
    rw [← List.cons_append]
    constructor
    · rintro ⟨hclasses, hinterfaces⟩
      -- with nothing in the classes, either an interface declares a match or no type does
      by_cases hdeclared : ∃ type ∈ (build table classes).allInterfaces target.owner,
          (build table classes).Declares target type
      · exact Or.inr ⟨hkind, hclasses, hdeclared, hinterfaces⟩
      · apply Or.inl
        intro type htype
        rcases List.mem_append.1 htype with htype | htype
        · exact hclasses type htype
        · exact fun h => hdeclared ⟨type, htype, h⟩
    · rintro (hnone | hlost)
      · refine ⟨fun type htype => hnone type (List.mem_append_left _ htype), ?_⟩
        intro type htype hdeclares
        exact absurd hdeclares (hnone type (List.mem_append_right _ htype))
      · exact ⟨hlost.notInClasses, hlost.overridden⟩

end Linked

/-- In a linked graph a target denotes no member exactly if nothing in its search space matches or
the match is lost; without cycles, exactly if nothing in its search space matches. -/
theorem resolve_eq_none_iff {g : Graph} {names : List String} {policy : DuplicatePolicy}
    {classes : List ClassRecord} (hlink : link (NameTable.ofList names) policy classes = .ok g)
    {id : TargetId} {target : AccessTarget} (htarget : g.targets[id]? = some target) :
    (g.resolve id = none ↔
      (∀ type ∈ g.searchSpace target, ¬ g.Declares target type) ∨ g.Lost target) ∧
    (g.Acyclic →
      (g.resolve id = none ↔ ∀ type ∈ g.searchSpace target, ¬ g.Declares target type)) := by
  obtain ⟨kept, -, rfl⟩ := link_eq_ok_iff.1 hlink
  have hnodup := NameTable.nodup_insertAll _ (mentions kept) (NameTable.nodup_ofList names)
  rw [resolve, htarget, Option.bind_some, resolveTarget_eq_none_iff hnodup]
  exact ⟨Iff.rfl, fun hacyclic => or_iff_left (not_lost_of_acyclic hnodup hacyclic)⟩

/-! ## Two interfaces that extend one another -/

/-- A method `run` that calls `C.m()`. -/
def callingMethod : CodeUnit :=
  { plainMethod with
    name := "run"
    references := [⟨.invokeVirtual, "C", false, "m", "()V", [], "void", 0, 0⟩] }

/-- The interfaces `A` and `B` extend one another, `C` implements `A`, and `D` calls `C.m()`. -/
def ring : List ClassRecord :=
  [plainRecord .interface "A" ["B"] [plainMethod], plainRecord .interface "B" ["A"] [plainMethod],
    plainRecord .plain "C" ["A"] [], plainRecord .plain "D" [] [callingMethod]]

/-- The names that the ring mentions. -/
def ringNames : NameTable := ⟨["java.lang.Object", "A", "B", "C", "D", "void"]⟩

/-- The target of the call. -/
def ringTarget : AccessTarget := ⟨0, .method, 3, "m", "()V", [], 5, "C.m()"⟩

theorem link_ring : link (NameTable.ofList []) .fail ring = .ok (build ringNames ring) := by
  have hmentions : mentions ring =
      ["java.lang.Object", "A", "B", "C", "D", "A", "java.lang.Object", "B", "void", "B",
        "java.lang.Object", "A", "void", "C", "java.lang.Object", "A", "D", "java.lang.Object",
        "void", "C", "void"] := by
    cbv
  exact link_of_mentions (by decide) hmentions rfl

theorem targets_ring : (build ringNames ring).targets[0]? = some ringTarget := by
  rfl

theorem nodup_ringNames : ringNames.names.Nodup := by
  decide

/-- Only the two interfaces declare the method. -/
theorem declares_ring_iff {type : TypeId} :
    (build ringNames ring).Declares ringTarget type ↔ type = 1 ∨ type = 2 := by
  have hlook : ∀ type < 6, ((build ringNames ring).findCodeUnit .method ringTarget type = none ↔
      ¬ (type = 1 ∨ type = 2)) := by
    decide +kernel
  by_cases hlt : type < 6
  · have hfind : (build ringNames ring).findCodeUnit .method ringTarget type = none ↔
        ¬ (build ringNames ring).Declares ringTarget type :=
      findMethod_eq_none_iff rfl
    rw [hlook type hlt] at hfind
    exact (not_iff_not.1 hfind).symm
  -- past the six names of the table there are no types
  · have hempty : (build ringNames ring).membersOf type = [] :=
      membersOf_eq_nil (Nat.le_of_not_lt hlt)
    have hnot : ¬ (build ringNames ring).Declares ringTarget type := by
      rintro ⟨m, hm, -⟩
      rw [hempty] at hm
      exact List.not_mem_nil hm
    apply iff_of_false hnot
    rintro (rfl | rfl)
    · exact hlt (by decide)
    · exact hlt (by decide)

theorem eq_zero_of_mem_superClasses_ring {type : TypeId}
    (h : type ∈ (build ringNames ring).superClasses 3) : type = 0 := by
  have hC : (build ringNames ring).supertype? 3 = some 0 := by
    decide +kernel
  have hroot : (build ringNames ring).supertype? 0 = none := by
    decide +kernel
  have hup := Walk.transGen_of_mem_chain h
  clear h
  -- the chain of `C` is the root and stops there
  induction hup with
  | single hstep =>
    rw [hC] at hstep
    exact (Option.some.inj hstep).symm
  | tail _ hstep ih =>
    rw [ih, hroot] at hstep
    cases hstep

/-- The target of the call is lost: the two interfaces that declare it override one another. -/
theorem lost_ring : (build ringNames ring).Lost ringTarget := by
  have hCA : 1 ∈ (build ringNames ring).allInterfaces 3 :=
    mem_allInterfaces_of_mem_interfaces (by decide +kernel) (by decide +kernel) (by decide)
  have hCB : 2 ∈ (build ringNames ring).allInterfaces 3 :=
    mem_allInterfaces_of_step hCA (by decide +kernel) (by decide +kernel) (by decide)
  have hAB : 2 ∈ (build ringNames ring).allInterfaces 1 :=
    mem_allInterfaces_of_mem_interfaces (by decide +kernel) (by decide +kernel) (by decide)
  have hBA : 1 ∈ (build ringNames ring).allInterfaces 2 :=
    mem_allInterfaces_of_mem_interfaces (by decide +kernel) (by decide +kernel) (by decide)
  refine ⟨rfl, ?_, ⟨1, hCA, declares_ring_iff.2 (Or.inl rfl)⟩, ?_⟩
  · intro type htype hdeclares
    rcases List.mem_cons.1 htype with rfl | htype
    · exact absurd (declares_ring_iff.1 hdeclares) (by decide)
    · rw [eq_zero_of_mem_superClasses_ring htype] at hdeclares
      exact absurd (declares_ring_iff.1 hdeclares) (by decide)
  · intro type _ hdeclares
    rcases declares_ring_iff.1 hdeclares with rfl | rfl
    · exact ⟨2, hCB, by decide, declares_ring_iff.2 (Or.inr rfl),
        mem_allSupertypes_of_mem_allInterfaces hBA⟩
    · exact ⟨1, hCA, by decide, declares_ring_iff.2 (Or.inl rfl),
        mem_allSupertypes_of_mem_allInterfaces hAB⟩

/-- A method is lost although two interfaces of its search space declare it. -/
theorem ring_not_complete :
    link (NameTable.ofList []) .fail ring = .ok (build ringNames ring) ∧
      (build ringNames ring).targets[0]? = some ringTarget ∧
      (∃ type ∈ (build ringNames ring).searchSpace ringTarget,
        (build ringNames ring).Declares ringTarget type) ∧
      (build ringNames ring).resolve 0 = none := by
  refine ⟨link_ring, targets_ring, ?_, ?_⟩
  · obtain ⟨type, htype, hdeclares⟩ := lost_ring.declared
    exact ⟨type, List.mem_cons_of_mem _ (List.mem_append_right _ htype), hdeclares⟩
  · rw [resolve, targets_ring, Option.bind_some]
    exact (resolveTarget_eq_none_iff nodup_ringNames).2 (Or.inr lost_ring)

/-- The ring meets what `resolve_eq_none_iff` asks for, and its target is lost. -/
theorem resolve_ring_eq_none :
    link (NameTable.ofList []) .fail ring = .ok (build ringNames ring) ∧
      (build ringNames ring).targets[0]? = some ringTarget ∧
      (build ringNames ring).Lost ringTarget ∧ (build ringNames ring).resolve 0 = none := by
  obtain ⟨hiff, -⟩ := resolve_eq_none_iff link_ring targets_ring
  exact ⟨link_ring, targets_ring, lost_ring, hiff.2 (Or.inr lost_ring)⟩

end TypeAtlas.Graph
