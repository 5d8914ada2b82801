import TypeAtlas.Proofs.Graph.Evidence
import TypeAtlas.Proofs.Graph.RenamedDependencies

/-!
# Dependents

The index keeps the dependencies of each type in the order in which they are found, and for each
type the places of the dependencies on it. Read back, these places are the dependencies on the type,
by origin (`dependents_ofGraph`): the index by target is the transpose of the index by origin
(`transposes_of_link`). What carries this is that a type has at most one dependency on each type,
and that a dependency leads to a type of the graph (`Linkable.ends_of_mem_dependencies`).
-/

set_option autoImplicit false

namespace TypeAtlas.Graph

/-! ## Places -/

section Places

variable {g : Graph} {target : TypeId}

/-- The dependencies of all types, by origin. -/
def allDependencies (g : Graph) : List Dependency :=
  (List.range g.typeCount).flatMap g.dependencies

theorem mem_allDependencies {d : Dependency} :
    d ∈ g.allDependencies ↔ ∃ origin, d ∈ g.dependencies origin := by
  rw [allDependencies, List.mem_flatMap]
  constructor
  · rintro ⟨origin, -, hd⟩
    exact ⟨origin, hd⟩
  · rintro ⟨origin, hd⟩
    obtain ⟨node, hnode, -⟩ := exists_node_of_mem_dependencies hd
    exact ⟨origin, List.mem_range.2 (Array.getElem?_eq_some_iff.1 hnode).1, hd⟩

/-- A type has at most one dependency on each type. -/
theorem nodup_targets (g : Graph) (origin : TypeId) :
    ((g.dependencies origin).map Dependency.target).Nodup := by
  cases hdependencies : g.dependencies origin with
  | nil => exact List.nodup_nil
  | cons d rest =>
    obtain ⟨node, hnode, himported⟩ :=
      exists_node_of_mem_dependencies (hdependencies ▸ List.mem_cons_self : d ∈ _)
    rw [← hdependencies, (gathered_dependencies hnode himported).targets]
    exact nodup_distinct _

/-- The places of the dependencies on a type. -/
def placesOf (g : Graph) (target : TypeId) : List (TypeId × Nat) :=
  (List.range g.typeCount).flatMap fun origin =>
    ((g.dependencies origin).zipIdx.filter fun entry => entry.1.target == target).map
      fun entry => (origin, entry.2)

theorem mem_placesOf {place : TypeId × Nat} :
    place ∈ g.placesOf target ↔ place.1 < g.typeCount ∧
      ∃ d, (g.dependencies place.1)[place.2]? = some d ∧ d.target = target := by
  obtain ⟨origin, position⟩ := place
  simp only [placesOf, List.mem_flatMap, List.mem_range, List.mem_map, List.mem_filter,
    beq_iff_eq, Prod.exists, Prod.mk.injEq]
  constructor
  · rintro ⟨_, hlt, d, _, ⟨hmem, htarget⟩, rfl, rfl⟩
    exact ⟨hlt, d, List.mk_mem_zipIdx_iff_getElem?.1 hmem, htarget⟩
  · rintro ⟨hlt, d, hget, htarget⟩
    exact ⟨origin, hlt, d, position, ⟨List.mk_mem_zipIdx_iff_getElem?.2 hget, htarget⟩, rfl, rfl⟩

theorem bucket_places (g : Graph) (target : TypeId) :
    bucket (DependencyIndex.places ((List.range g.types.size).map g.dependencies)) target =
      g.placesOf target := by
  rw [places_map_range, bucket_flatMap, placesOf]
  simp only [bucket, List.filter_map, List.map_map]
  rfl

/-- At the places of the entries with a property stand these entries. -/
theorem filterMap_zipIdx_filter {α : Type} (list : List α) (p : α → Bool) :
    (list.zipIdx.filter fun entry => p entry.1).filterMap (fun entry => list[entry.2]?) =
      list.filter p := by
  have hget : ∀ entry ∈ list.zipIdx.filter fun entry => p entry.1,
      list[entry.2]? = some entry.1 := by
    intro entry hentry
    exact List.mk_mem_zipIdx_iff_getElem?.1 (List.mem_filter.1 hentry).1
  calc (list.zipIdx.filter fun entry => p entry.1).filterMap (fun entry => list[entry.2]?)
      = (list.zipIdx.filter (p ∘ Prod.fst)).map Prod.fst := by
        rw [List.filterMap_congr hget, List.filterMap_eq_map']
        rfl
    _ = (list.zipIdx.map Prod.fst).filter p := List.filter_map.symm
    _ = list.filter p := by rw [List.zipIdx_map_fst]

end Places

section Linked

variable {table : NameTable} {classes : List ClassRecord}

namespace Linkable

variable (L : Linkable table classes)
include L

/-- The places that are stored for a type are those of the dependencies on it. -/
theorem incoming_ofGraph (target : TypeId) :
    (DependencyIndex.ofGraph (build table classes)).incoming[target]?.getD [] =
      (build table classes).placesOf target := by
  rw [← bucket_places]
  refine getD_distribute (fun entry hentry => ?_) target
  rw [places_map_range] at hentry
  obtain ⟨origin, -, hentry⟩ := List.mem_flatMap.1 hentry
  obtain ⟨⟨d, position⟩, hd, rfl⟩ := List.mem_map.1 hentry
  obtain ⟨-, -, node, hnode, -⟩ := L.ends_of_mem_dependencies (List.fst_mem_of_mem_zipIdx hd)
  exact (Array.getElem?_eq_some_iff.1 hnode).1

/-- The dependents of a type are the dependencies on it, by origin. -/
theorem dependents_ofGraph (target : TypeId) :
    (DependencyIndex.ofGraph (build table classes)).dependents target =
      (build table classes).allDependencies.filter fun d => d.target == target := by
  rw [DependencyIndex.dependents, L.incoming_ofGraph, placesOf, List.filterMap_flatMap,
    allDependencies, List.filter_flatMap]
  congr 1
  funext origin
  rw [List.filterMap_map]
  simp only [Function.comp_def, dependencies_ofGraph]
  exact filterMap_zipIdx_filter _ fun d : Dependency => d.target == target

/-- A dependency is told by its ends from all others. -/
theorem nodup_ends :
    ((build table classes).allDependencies.map fun d => (d.origin, d.target)).Nodup := by
  rw [allDependencies, List.map_flatMap, List.nodup_flatMap]
  constructor
  -- one origin has one dependency for each target
  · intro origin _
    refine List.Nodup.of_map Prod.snd ?_
    rw [List.map_map]
    exact nodup_targets (build table classes) origin
  · refine List.nodup_range.imp fun {origin other} hne pair hpair hother => hne ?_
    obtain ⟨d, hd, rfl⟩ := List.mem_map.1 hpair
    obtain ⟨d', hd', hsame⟩ := List.mem_map.1 hother
    rw [← (L.ends_of_mem_dependencies hd).1, ← (L.ends_of_mem_dependencies hd').1]
    exact (congrArg Prod.fst hsame).symm

/-- The dependents of a type are in the order of their origins, one for each. -/
theorem ascending_dependents (target : TypeId) :
    (((build table classes).allDependencies.filter fun d => d.target == target).map
      Dependency.origin).Pairwise (· < ·) := by
  rw [allDependencies, List.filter_flatMap, List.map_flatMap, List.pairwise_flatMap]
  constructor
  · intro origin _
    rw [List.pairwise_map]
    have hdistinct := (List.pairwise_map.1 (nodup_targets (build table classes) origin)).filter
      fun d => d.target == target
    -- two dependencies of one origin are not on one target
    refine hdistinct.imp_of_mem fun {d d'} hd hd' hne => absurd ?_ hne
    exact (eq_of_beq (List.mem_filter.1 hd).2).trans (eq_of_beq (List.mem_filter.1 hd').2).symm
  · refine List.pairwise_lt_range.imp fun {origin other} hlt first hfirst second hsecond => ?_
    obtain ⟨d, hd, rfl⟩ := List.mem_map.1 hfirst
    obtain ⟨d', hd', rfl⟩ := List.mem_map.1 hsecond
    rw [(L.ends_of_mem_dependencies (List.mem_filter.1 hd).1).1,
      (L.ends_of_mem_dependencies (List.mem_filter.1 hd').1).1]
    exact hlt

/-- All dependents are all dependencies. -/
theorem dependents_perm :
    ((List.range (build table classes).typeCount).flatMap fun target =>
      (build table classes).allDependencies.filter fun d => d.target == target).Perm
      (build table classes).allDependencies := by
  have hall : (build table classes).allDependencies.Nodup := L.nodup_ends.of_map _
  have hrows : ((List.range (build table classes).typeCount).flatMap fun target =>
      (build table classes).allDependencies.filter fun d => d.target == target).Nodup := by
    rw [List.nodup_flatMap]
    refine ⟨fun target _ => hall.filter _, List.nodup_range.imp fun hne d hd hd' => hne ?_⟩
    exact (eq_of_beq (List.mem_filter.1 hd).2).symm.trans (eq_of_beq (List.mem_filter.1 hd').2)
  refine (List.perm_ext_iff_of_nodup hrows hall).2 fun d => ?_
  rw [List.mem_flatMap]
  constructor
  · rintro ⟨target, -, hd⟩
    exact (List.mem_filter.1 hd).1
  · intro hd
    obtain ⟨origin, hmem⟩ := mem_allDependencies.1 hd
    obtain ⟨-, -, node, hnode, -⟩ := L.ends_of_mem_dependencies hmem
    exact ⟨d.target, List.mem_range.2 (Array.getElem?_eq_some_iff.1 hnode).1,
      List.mem_filter.2 ⟨hd, beq_self_eq_true _⟩⟩

end Linkable

end Linked

/-! ## The transpose -/

/-- An index holds the dependencies by origin and, for each type, the places of those on it. Read
back, these are the dependencies on the type, one for each origin, in the order of the origins. So
over all types there are the same entries by target as by origin, no two of them with the same
ends. -/
structure Transposes (g : Graph) (index : DependencyIndex) : Prop where
  outgoingLists : index.outgoing.size = g.typeCount
  incomingLists : index.incoming.size = g.typeCount
  outgoing : ∀ origin, index.dependencies origin = g.dependencies origin
  origin : ∀ origin, ∀ d ∈ index.dependencies origin, d.origin = origin
  incoming : ∀ target d,
    d ∈ index.dependents target ↔ d.target = target ∧ ∃ origin, d ∈ index.dependencies origin
  ascending : ∀ target, ((index.dependents target).map Dependency.origin).Pairwise (· < ·)
  inRange : ∀ (target origin : TypeId) (position : Nat),
    (origin, position) ∈ index.incoming[target]?.getD [] →
      origin < g.typeCount ∧ position < (index.dependencies origin).length
  same : ((List.range g.typeCount).flatMap index.dependents).Perm
    ((List.range g.typeCount).flatMap index.dependencies)
  ends : (((List.range g.typeCount).flatMap index.dependencies).map fun d =>
    (d.origin, d.target)).Nodup

theorem Linkable.transposes {table : NameTable} {classes : List ClassRecord}
    (L : Linkable table classes) :
    (build table classes).Transposes (DependencyIndex.ofGraph (build table classes)) := by
  have hdependencies := dependencies_ofGraph (build table classes)
  have hdependents := L.dependents_ofGraph
  constructor
  case outgoingLists => simp [DependencyIndex.ofGraph, typeCount]
  case incomingLists => exact size_distribute _ _
  case outgoing => exact hdependencies
  case origin =>
    intro origin d hd
    rw [hdependencies] at hd
    exact (L.ends_of_mem_dependencies hd).1
  case incoming =>
    intro target d
    rw [hdependents, List.mem_filter, beq_iff_eq, mem_allDependencies, and_comm]
    simp only [hdependencies]
  case ascending =>
    intro target
    rw [hdependents]
    exact L.ascending_dependents target
  case inRange =>
    intro target origin position hplace
    rw [L.incoming_ofGraph] at hplace
    obtain ⟨hlt, d, hget, -⟩ := mem_placesOf.1 hplace
    rw [hdependencies]
    exact ⟨hlt, (List.getElem?_eq_some_iff.1 hget).1⟩
  case same =>
    rw [funext hdependents, funext hdependencies]
    exact L.dependents_perm
  case ends =>
    rw [funext hdependencies]
    exact L.nodup_ends

/-- In a linked graph the dependents are the transpose of the dependencies. -/
theorem transposes_of_link {g : Graph} {names : List String} {policy : DuplicatePolicy}
    {classes : List ClassRecord} (hlink : link (NameTable.ofList names) policy classes = .ok g) :
    g.Transposes (DependencyIndex.ofGraph g) := by
  obtain ⟨table, kept, -, rfl, L⟩ := linkable_of_link hlink
  exact L.transposes

/-- What the class mentions lists the class among its dependents, with the same evidence. -/
theorem transposes_mentioningClass :
    ∃ g, link (NameTable.ofList []) .fail [mentioningClass] = .ok g ∧
      g.Transposes (DependencyIndex.ofGraph g) ∧
      ⟨1, 6, .annotated 0, [.fieldType 0]⟩ ∈ (DependencyIndex.ofGraph g).dependents 6 ∧
      ⟨1, 10, .access 0, [.access 1]⟩ ∈ (DependencyIndex.ofGraph g).dependents 10 := by
  have T := transposes_of_link link_mentioningClass
  have hdependencies := (T.outgoing 1).trans dependencies_mentioningClass
  refine ⟨_, link_mentioningClass, T, (T.incoming _ _).2 ⟨rfl, 1, ?_⟩,
    (T.incoming _ _).2 ⟨rfl, 1, ?_⟩⟩
  · rw [hdependencies]
    decide
  · rw [hdependencies]
    decide

end TypeAtlas.Graph
