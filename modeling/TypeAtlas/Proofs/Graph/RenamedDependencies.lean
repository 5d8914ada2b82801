import TypeAtlas.Proofs.Graph.RenamedMembers

/-!
# Dependencies and reverse indices under a renaming

Graphs that are the same up to a renaming have the same dependencies, with the evidence for them in
the same order (`dependencies_rename`). The lists of what points to a type or to a member hold the
same entries, in an order that follows the numbers (`dependents_rename`,
`accessesToMember_rename`, `accessesToType_rename`).
-/

set_option autoImplicit false

namespace TypeAtlas

/-! ## Annotations -/

namespace ElementValue

variable {τ σ : Type} (f : τ → σ)

mutual

theorem types_map (value : ElementValue τ) : (value.map f).types = value.types.map f := by
  cases value with
  | const value => simp only [map, types, List.map_nil]
  | enumConst type name => simp only [map, types, List.map_cons, List.map_nil]
  | classLiteral type => simp only [map, types, List.map_cons, List.map_nil]
  | nested descriptor type elements =>
    simp only [map, types, List.map_cons]
    rw [typesOfElements_map elements]
  | array values =>
    simp only [map, types]
    exact typesOfValues_map values

theorem typesOfElements_map (elements : List (String × ElementValue τ)) :
    typesOfElements (mapElements f elements) = (typesOfElements elements).map f := by
  cases elements with
  | nil => simp only [mapElements, typesOfElements, List.map_nil]
  | cons element rest =>
    obtain ⟨name, value⟩ := element
    simp only [mapElements, typesOfElements, List.map_append]
    rw [types_map value, typesOfElements_map rest]

theorem typesOfValues_map (values : List (ElementValue τ)) :
    typesOfValues (mapValues f values) = (typesOfValues values).map f := by
  cases values with
  | nil => simp only [mapValues, typesOfValues, List.map_nil]
  | cons value rest =>
    simp only [mapValues, typesOfValues, List.map_append]
    rw [types_map value, typesOfValues_map rest]

end

end ElementValue

/-- The types that an annotation with exchanged references mentions. -/
theorem AnnotationTree.types_map {τ σ : Type} (f : τ → σ) (a : AnnotationTree τ) :
    (a.map f).types = a.types.map f := by
  unfold types map
  rw [ElementValue.typesOfElements_map, List.map_cons]

/-! ## Evidence -/

theorem Evidence.rename_injective (ρ : Renaming) : Function.Injective (Evidence.rename ρ) := by
  intro a b hab
  cases a <;> cases b <;> simp_all [Evidence.rename]

/-- A mention of a type, renamed. -/
def renameMention (ρ : Renaming) (mention : TypeId × Evidence) : TypeId × Evidence :=
  (ρ.types mention.1, mention.2.rename ρ)

/-- A place in the dependencies of an origin, renamed. -/
def renameOrigin (ρ : Renaming) (place : TypeId × Nat) : TypeId × Nat :=
  (ρ.types place.1, place.2)

namespace Graph

/-- The index holds the dependencies of every type. -/
theorem dependencies_ofGraph (g : Graph) (id : TypeId) :
    (DependencyIndex.ofGraph g).dependencies id = g.dependencies id := by
  simp only [DependencyIndex.dependencies, DependencyIndex.ofGraph, List.getElem?_toArray,
    List.getElem?_map]
  by_cases hlt : id < g.types.size
  · rw [List.getElem?_range hlt]
    rfl
  · have hnone : g.types[id]? = none := Array.getElem?_eq_none (Nat.le_of_not_lt hlt)
    have hempty : g.dependencies id = [] := by
      rw [dependencies, hnone]
    rw [hempty, List.getElem?_eq_none (by simpa using hlt)]
    rfl

theorem places_map_range (size : Nat) (dependencies : TypeId → List Dependency) :
    DependencyIndex.places ((List.range size).map dependencies) =
      (List.range size).flatMap fun origin =>
        (dependencies origin).zipIdx.map fun (d, position) => (d.target, (origin, position)) := by
  have hindexed : ((List.range size).map dependencies).zipIdx =
      (List.range size).map fun origin => (dependencies origin, origin) := by
    rw [List.zipIdx_eq_zip_range', List.length_map, List.length_range, ← List.range_eq_range',
      List.map_prod_right_eq_zip]
  rw [DependencyIndex.places, hindexed, List.flatMap_map]

theorem enterMention_rename (ρ : Renaming) (origin : TypeId) (mention : TypeId × Evidence)
    (found : List Dependency) :
    enterMention (ρ.types origin) (renameMention ρ mention) (found.map (Dependency.rename ρ)) =
      (enterMention origin mention found).map (Dependency.rename ρ) := by
  induction found with
  | nil => rfl
  | cons d rest ih =>
    have htarget : (d.rename ρ).target = (renameMention ρ mention).1 ↔ d.target = mention.1 :=
      ρ.types.apply_eq_iff_eq
    have hevidence : (renameMention ρ mention).2 ∈ (d.rename ρ).evidence ↔
        mention.2 ∈ d.evidence :=
      List.mem_map_of_injective (Evidence.rename_injective ρ) (l := d.evidence)
    rw [List.map_cons, enterMention, enterMention]
    -- an entry for the target is found at the same place in both lists
    by_cases hsame : d.target = mention.1
    · rw [if_pos hsame, if_pos (htarget.2 hsame), List.map_cons]
      congr 1
      by_cases hold : mention.2 ∈ d.evidence
      · rw [if_pos hold, if_pos (hevidence.2 hold)]
      · rw [if_neg hold, if_neg fun h => hold (hevidence.1 h)]
        simp only [Dependency.rename, renameMention, List.map_append, List.map_cons, List.map_nil]
    · rw [if_neg hsame, if_neg fun h => hsame (htarget.1 h), ih, List.map_cons]

theorem memberMentions_rename (ρ : Renaming) (m : MemberNode) :
    memberMentions (m.rename ρ) = (memberMentions m).map (renameMention ρ) := by
  have hkind : (m.rename ρ).kind = m.kind := rfl
  unfold memberMentions
  rw [hkind]
  cases m.kind <;>
    simp [MemberNode.rename, renameMention, Evidence.rename, Function.comp_def]

/-- An access lands on the member that its target resolves to. -/
theorem landings_eq (g : Graph) : ReverseIndex.landings g = g.accesses.toList.filterMap
    fun a => (g.resolve a.target).map fun member => (member, a.id) := by
  unfold ReverseIndex.landings
  apply List.filterMap_congr
  intro a _
  simp only [Array.getElem?_map, resolve]
  cases g.targets[a.target]? <;> rfl

namespace SameUpTo

variable {ρ : Renaming} {g h : Graph} (S : SameUpTo ρ g h)
include S

/-! ## Dependencies -/

theorem componentType?_rename (id : TypeId) :
    h.componentType? (ρ.types id) = (g.componentType? id).map ρ.types := by
  rcases S.types_cases id with ⟨hg, hh⟩ | ⟨node, subtypes, -, hg, hh⟩
  · simp only [componentType?, hg, hh, Option.bind_none, Option.map_none]
  · simp only [componentType?, hg, hh, Option.bind_some, TypeNode.rename]

theorem nameLength_rename (id : TypeId) : h.nameLength (ρ.types id) = g.nameLength id := by
  rcases S.types_cases id with ⟨hg, hh⟩ | ⟨node, subtypes, -, hg, hh⟩
  · simp only [nameLength, hg, hh]
  · simp only [nameLength, hg, hh, TypeNode.rename]

theorem isPrimitiveType_rename (id : TypeId) :
    h.isPrimitiveType (ρ.types id) = g.isPrimitiveType id := by
  rcases S.types_cases id with ⟨hg, hh⟩ | ⟨node, subtypes, -, hg, hh⟩
  · simp only [isPrimitiveType, hg, hh]
  · simp only [isPrimitiveType, hg, hh, TypeNode.rename, TypeNode.isPrimitive]

theorem elementType_rename (id : TypeId) :
    h.elementType (ρ.types id) = ρ.types (g.elementType id) := by
  fun_induction elementType g id with
  -- the names of the components are as long in both graphs, so both descend alike
  | case1 id component hcomponent hshorter _ ih =>
    rw [elementType, S.componentType?_rename, hcomponent]
    simp only [Option.map_some, S.nameLength_rename]
    rw [dif_pos hshorter, ih]
  | case2 id component hcomponent hlonger =>
    -- a component with a longer name is not followed
    rw [elementType, S.componentType?_rename, hcomponent]
    simp only [Option.map_some, S.nameLength_rename]
    rw [dif_neg hlonger]
  | case3 id hnone =>
    rw [elementType, S.componentType?_rename, hnone]
    rfl

theorem annotationMentions_rename (id : AnnotationId) :
    h.annotationMentions (ρ.annotations id) =
      (g.annotationMentions id).map (renameMention ρ) := by
  unfold annotationMentions
  rw [S.annotations]
  cases g.annotations[id]? with
  | none => rfl
  | some a =>
    simp only [Option.map_some, AnnotationNode.rename, AnnotationTree.types_map, List.map_map]
    rfl

theorem accessMention_rename (a : Access) :
    h.accessMention (a.rename ρ) = (g.accessMention a).map (renameMention ρ) := by
  simp only [accessMention, Access.rename, S.targets, Option.map_map]
  rfl

/-- What a linked type mentions, it mentions in both graphs in the same order. -/
theorem typeMentions_rename (node : TypeNode) (subtypes : List TypeId) :
    h.typeMentions (node.rename ρ subtypes) =
      (g.typeMentions node).map (renameMention ρ) := by
  have haccesses : (h.accessesFromType (ρ.types node.id)).filterMap h.accessMention =
      ((g.accessesFromType node.id).filterMap g.accessMention).map (renameMention ρ) := by
    rw [S.accessesFromType_rename]
    exact filterMap_map_of_comm S.accessMention_rename _
  have hsupertype : (node.supertype.map ρ.types).toList = node.supertype.toList.map ρ.types := by
    cases node.supertype <;> rfl
  simp only [typeMentions, TypeNode.rename, haccesses, hsupertype, S.membersOf_rename,
    List.map_append, List.map_map, List.map_flatMap, List.flatMap_map,
    S.annotationMentions_rename, memberMentions_rename, Function.comp_def]
  simp only [MemberNode.rename, List.flatMap_map, S.annotationMentions_rename]
  rfl

theorem countedMentions_rename (node : TypeNode) (subtypes : List TypeId) :
    h.countedMentions (node.rename ρ subtypes) =
      (g.countedMentions node).map (renameMention ρ) := by
  have hid : (node.rename ρ subtypes).id = ρ.types node.id := rfl
  -- going down to the element type commutes with the renaming
  have helement : (fun mention : TypeId × Evidence => (h.elementType mention.1, mention.2)) ∘
      renameMention ρ =
      renameMention ρ ∘ fun mention => (g.elementType mention.1, mention.2) := by
    funext mention
    simp only [Function.comp_apply, renameMention, S.elementType_rename]
  -- which mentions count does not depend on the numbers
  have hcounts : (fun mention : TypeId × Evidence =>
      mention.1 != ρ.types node.id && !h.isPrimitiveType mention.1) ∘ renameMention ρ =
      fun mention => mention.1 != node.id && !g.isPrimitiveType mention.1 := by
    funext mention
    simp only [Function.comp_apply, renameMention, S.isPrimitiveType_rename]
    rw [Bool.eq_iff_iff]
    simp only [Bool.and_eq_true, bne_iff_ne, ne_eq, ρ.types.apply_eq_iff_eq]
  simp only [countedMentions, hid]
  rw [S.typeMentions_rename, List.map_map, helement, ← List.map_map, List.filter_map, hcounts]

/-- A type has the same dependencies in both graphs, in the same order. -/
theorem dependencies_rename (id : TypeId) :
    h.dependencies (ρ.types id) = (g.dependencies id).map (Dependency.rename ρ) := by
  have hfold : ∀ (mentions : List (TypeId × Evidence)) (found : List Dependency),
      (mentions.map (renameMention ρ)).foldl
          (fun found mention => enterMention (ρ.types id) mention found)
          (found.map (Dependency.rename ρ)) =
        (mentions.foldl (fun found mention => enterMention id mention found) found).map
          (Dependency.rename ρ) := by
    intro mentions
    induction mentions with
    | nil => exact fun found => rfl
    | cons mention rest ih =>
      intro found
      rw [List.map_cons, List.foldl_cons, List.foldl_cons, enterMention_rename, ih]
  rcases S.types_cases id with ⟨hg, hh⟩ | ⟨node, subtypes, -, hg, hh⟩
  · simp only [dependencies, hg, hh, List.map_nil]
  · have himported : (node.rename ρ subtypes).fullyImported = node.fullyImported := rfl
    simp only [dependencies, hg, hh, himported]
    split
    · rw [S.countedMentions_rename]
      exact hfold (g.countedMentions node) []
    · rfl

/-! ## What points to a type or a member -/

/-- The places of the dependencies of a graph, by origin. -/
theorem places_perm :
    (DependencyIndex.places ((List.range h.typeCount).map h.dependencies)).Perm
      ((DependencyIndex.places ((List.range g.typeCount).map g.dependencies)).map
        fun place => (ρ.types place.1, renameOrigin ρ place.2)) := by
  rw [places_map_range, places_map_range, List.map_flatMap]
  -- the origins are the same types in another order
  refine ((range_perm S.lt_typeCount_iff).flatMap_right _).trans (.of_eq ?_)
  rw [List.flatMap_map]
  apply List.flatMap_congr
  intro origin _
  rw [S.dependencies_rename, List.zipIdx_map, List.map_map, List.map_map]
  rfl

/-- What depends on a type is the same in both graphs, in an order that follows the numbers. -/
theorem dependents_rename (id : TypeId) :
    ((DependencyIndex.ofGraph h).dependents (ρ.types id)).Perm
      (((DependencyIndex.ofGraph g).dependents id).map (Dependency.rename ρ)) := by
  have hincoming := distribute_rename S.lt_typeCount_iff S.places_perm id
  simp only [DependencyIndex.dependents, dependencies_ofGraph]
  refine (hincoming.filterMap _).trans (.of_eq ?_)
  refine filterMap_map_of_comm (fun place => ?_) _
  simp only [renameOrigin, S.dependencies_rename, List.getElem?_map]

theorem landing_rename (a : Access) :
    (h.resolve (a.rename ρ).target).map (fun member => (member, (a.rename ρ).id)) =
      ((g.resolve a.target).map fun member => (member, a.id)).map fun landing =>
        (ρ.members landing.1, ρ.accesses landing.2) := by
  simp only [Access.rename, S.resolve_rename, Option.map_map]
  rfl

theorem landings_perm : (ReverseIndex.landings h).Perm
    ((ReverseIndex.landings g).map fun landing =>
      (ρ.members landing.1, ρ.accesses landing.2)) := by
  rw [landings_eq, landings_eq]
  refine ((toList_perm_of_rename S.accesses).filterMap _).trans (.of_eq ?_)
  exact filterMap_map_of_comm S.landing_rename _

/-- Accesses that keep their numbers land in the same order. -/
theorem landings_rename (haccesses : ρ.accesses = Equiv.refl AccessId) :
    ReverseIndex.landings h = (ReverseIndex.landings g).map fun landing =>
      (ρ.members landing.1, ρ.accesses landing.2) := by
  have hlist : h.accesses.toList = g.accesses.toList.map (Access.rename ρ) := by
    apply List.ext_getElem?
    intro id
    have hget := S.accesses id
    rw [haccesses, Equiv.refl_apply] at hget
    rw [List.getElem?_map, Array.getElem?_toList, Array.getElem?_toList, hget]
  rw [landings_eq, landings_eq, hlist]
  exact filterMap_map_of_comm S.landing_rename _

theorem accessesToMember_rename (id : MemberId) :
    ((ReverseIndex.ofGraph h).accessesToMember (ρ.members id)).Perm
      (((ReverseIndex.ofGraph g).accessesToMember id).map ρ.accesses) :=
  distribute_rename (lt_size_iff_of_rename S.members) S.landings_perm id

/-- Renamed landings are landings on renamed types. -/
theorem typeLandings_rename (landings : List (MemberId × AccessId)) :
    (landings.map fun landing => (ρ.members landing.1, ρ.accesses landing.2)).filterMap
        (fun landing => (h.declaringType? landing.1).map fun owner => (owner, landing.2)) =
      (landings.filterMap fun landing =>
        (g.declaringType? landing.1).map fun owner => (owner, landing.2)).map fun entry =>
          (ρ.types entry.1, ρ.accesses entry.2) := by
  refine filterMap_map_of_comm (fun landing => ?_) landings
  simp only [S.declaringType?_rename, Option.map_map]
  rfl

theorem accessesToType_rename (id : TypeId) :
    ((ReverseIndex.ofGraph h).accessesToType (ρ.types id)).Perm
      (((ReverseIndex.ofGraph g).accessesToType id).map ρ.accesses) := by
  refine distribute_rename S.lt_typeCount_iff ?_ id
  exact (S.landings_perm.filterMap _).trans (.of_eq (S.typeLandings_rename _))

section SameAccesses

variable (haccesses : ρ.accesses = Equiv.refl AccessId)
include haccesses

/-- If accesses keep their numbers, those that land on a member are the same, in the same order. -/
theorem accessesToMember_eq (id : MemberId) :
    (ReverseIndex.ofGraph h).accessesToMember (ρ.members id) =
      (ReverseIndex.ofGraph g).accessesToMember id := by
  have hmap := distribute_map (lt_size_iff_of_rename S.members) ρ.accesses
    (ReverseIndex.landings g) id
  rw [← S.landings_rename haccesses, haccesses, Equiv.coe_refl, List.map_id] at hmap
  exact hmap

theorem accessesToType_eq (id : TypeId) :
    (ReverseIndex.ofGraph h).accessesToType (ρ.types id) =
      (ReverseIndex.ofGraph g).accessesToType id := by
  have hmap := distribute_map S.lt_typeCount_iff ρ.accesses
    ((ReverseIndex.landings g).filterMap fun landing =>
      (g.declaringType? landing.1).map fun owner => (owner, landing.2)) id
  rw [← S.typeLandings_rename, ← S.landings_rename haccesses, haccesses, Equiv.coe_refl,
    List.map_id] at hmap
  exact hmap

end SameAccesses

end SameUpTo

end Graph

end TypeAtlas
