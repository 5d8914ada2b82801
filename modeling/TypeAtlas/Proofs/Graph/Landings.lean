import Mathlib.Data.List.Sort
import TypeAtlas.Proofs.Graph.Nearest
import TypeAtlas.Proofs.Graph.RenamedDependencies
import TypeAtlas.Proofs.Graph.WellFormed

/-!
# What lands on a member and on a type

The reverse index is the inverse of resolution (`invertsResolution_of_link`): it lists for each
member the accesses that resolve to it, and for each type those that resolve to one of its members,
in the order of their numbers. So the list of a type is what comes of merging the lists of its
members, and each access that resolves stands in one list of members and in one list of types.
-/

set_option autoImplicit false

namespace TypeAtlas

open ClassFile (MemberReference ReferenceKind)

/-! ## Lists in the order of numbers -/

/-- A list holds the numbers with a property, in increasing order. -/
structure ListsAscending (P : Nat → Prop) (ids : List Nat) : Prop where
  mem : ∀ id, id ∈ ids ↔ P id
  ascending : ids.Pairwise (· < ·)

/-- Merges lists of numbers, each of them in order, into one that is in order. -/
def mergeAll (lists : List (List Nat)) : List Nat :=
  lists.foldr (fun list merged => list.merge merged fun a b => a ≤ b) []

section Ascending

variable {P : Nat → Prop} {ids : List Nat}

theorem ListsAscending.nodup (h : ListsAscending P ids) : ids.Nodup :=
  h.ascending.imp Nat.ne_of_lt

theorem ListsAscending.sorted (h : ListsAscending P ids) : ids.Pairwise (· ≤ ·) :=
  h.ascending.imp Nat.le_of_lt

theorem mergeAll_perm (lists : List (List Nat)) : (mergeAll lists).Perm lists.flatten := by
  induction lists with
  | nil => exact List.Perm.refl []
  | cons list rest ih => exact (List.merge_perm_append _).trans (ih.append_left list)

theorem pairwise_mergeAll {lists : List (List Nat)}
    (h : ∀ list ∈ lists, list.Pairwise (· ≤ ·)) : (mergeAll lists).Pairwise (· ≤ ·) := by
  induction lists with
  | nil => exact List.Pairwise.nil
  | cons list rest ih =>
    exact (h list List.mem_cons_self).merge (ih fun other hother =>
      h other (List.mem_cons_of_mem list hother))

/-- Nodes that stand at their own numbers have the numbers from zero on. -/
theorem map_eq_range_of_ids {α : Type} {nodes : Array α} {id : α → Nat}
    (hids : ∀ i node, nodes[i]? = some node → id node = i) :
    nodes.toList.map id = List.range nodes.size := by
  apply List.ext_getElem?
  intro i
  rw [List.getElem?_map, Array.getElem?_toList]
  by_cases hi : i < nodes.size
  · have hget : nodes[i]? = some nodes[i] := Array.getElem?_eq_getElem hi
    rw [hget, Option.map_some, hids i _ hget, List.getElem?_range hi]
  · rw [Array.getElem?_eq_none (Nat.le_of_not_lt hi), List.getElem?_eq_none (by simpa using hi)]
    rfl

/-- Merging lists without common entries gives the list of all their entries in order. -/
theorem ListsAscending.eq_mergeAll {α : Type} {indices : List α} {own : α → Nat → Prop}
    {lists : α → List Nat} (h : ListsAscending P ids)
    (hlists : ∀ i, ListsAscending (own i) (lists i)) (hindices : indices.Nodup)
    (hdisjoint : ∀ i j id, own i id → own j id → i = j)
    (hall : ∀ id, P id ↔ ∃ i ∈ indices, own i id) : ids = mergeAll (indices.map lists) := by
  have hsorted : ∀ list ∈ indices.map lists, list.Pairwise (· ≤ ·) := by
    intro list hlist
    obtain ⟨i, -, rfl⟩ := List.mem_map.1 hlist
    exact (hlists i).sorted
  have hnodup : (indices.map lists).flatten.Nodup := by
    rw [← List.flatMap_def, List.nodup_flatMap]
    refine ⟨fun i _ => (hlists i).nodup, hindices.imp fun hne id hi hj => hne ?_⟩
    exact hdisjoint _ _ id (((hlists _).mem id).1 hi) (((hlists _).mem id).1 hj)
  have hsame : ids.Perm (indices.map lists).flatten := by
    refine (List.perm_ext_iff_of_nodup h.nodup hnodup).2 fun id => ?_
    rw [h.mem, hall, ← List.flatMap_def, List.mem_flatMap]
    simp only [(hlists _).mem]
  exact (hsame.trans (mergeAll_perm _).symm).eq_of_pairwise
    (fun _ _ _ _ => Nat.le_antisymm) h.sorted (pairwise_mergeAll hsorted)

end Ascending

namespace Graph

/-! ## The lists of the index -/

section Lists

variable {g : Graph} {a : AccessId} {m : MemberId}

/-- An access resolves to a member that belongs to a type. -/
def LandsOn (g : Graph) (a : AccessId) (type : TypeId) : Prop :=
  ∃ m node, g.resolvedTarget a = some m ∧ g.members[m]? = some node ∧ node.owner = type

/-- Accesses with a property, in their order, are listed in the order of their numbers. -/
theorem Indexed.listsAscending_filter (hindexed : g.Indexed) (p : Access → Bool) :
    ListsAscending (fun id => ∃ a, g.accesses[id]? = some a ∧ p a = true)
      ((g.accesses.toList.filter p).map Access.id) := by
  constructor
  case mem =>
    intro id
    rw [List.mem_map]
    constructor
    · rintro ⟨a, ha, rfl⟩
      obtain ⟨hmem, hp⟩ := List.mem_filter.1 ha
      obtain ⟨i, hi⟩ := List.getElem?_of_mem hmem
      rw [Array.getElem?_toList] at hi
      exact ⟨a, hindexed.accesses i a hi ▸ hi, hp⟩
    · rintro ⟨a, ha, hp⟩
      have hmem : a ∈ g.accesses.toList := Array.mem_toList_iff.2 (Array.mem_of_getElem? ha)
      exact ⟨a, List.mem_filter.2 ⟨hmem, hp⟩, hindexed.accesses id a ha⟩
  case ascending =>
    have hsub : ((g.accesses.toList.filter p).map Access.id).Sublist
        (g.accesses.toList.map Access.id) := List.filter_sublist.map Access.id
    rw [map_eq_range_of_ids hindexed.accesses] at hsub
    exact List.pairwise_lt_range.sublist hsub

/-- An access lands on the type that declares the member it resolves to. -/
theorem landsOn_iff {type : TypeId} :
    g.LandsOn a type ↔ ∃ access, g.accesses[a]? = some access ∧
      (g.resolve access.target).bind g.declaringType? = some type := by
  simp only [LandsOn, resolvedTarget, declaringType?, Option.bind_eq_some_iff,
    Option.map_eq_some_iff]
  constructor
  · rintro ⟨m, node, ⟨access, ha, hm⟩, hnode, howner⟩
    exact ⟨access, ha, m, hm, node, hnode, howner⟩
  · rintro ⟨access, ha, m, hm, node, hnode, howner⟩
    exact ⟨m, node, ⟨access, ha, hm⟩, hnode, howner⟩

/-- Accesses that are distributed by a key are listed where the key sends them. -/
theorem Indexed.listsAscending_distribute (hindexed : g.Indexed) {key : Access → Option Nat}
    {size : Nat} (hlt : ∀ a ∈ g.accesses, ∀ i, key a = some i → i < size) (index : Nat) :
    ListsAscending (fun id => ∃ a, g.accesses[id]? = some a ∧ key a = some index)
      ((distribute size (g.accesses.toList.filterMap fun a =>
        (key a).map fun i => (i, a.id)))[index]?.getD []) := by
  have hentries : ∀ entry ∈ g.accesses.toList.filterMap fun a => (key a).map fun i => (i, a.id),
      entry.1 < size := by
    intro entry hentry
    obtain ⟨a, ha, hsome⟩ := List.mem_filterMap.1 hentry
    obtain ⟨i, hi, rfl⟩ := Option.map_eq_some_iff.1 hsome
    exact hlt a (Array.mem_toList_iff.1 ha) i hi
  rw [getD_distribute hentries, bucket_filterMap key Access.id]
  have hlists := hindexed.listsAscending_filter fun a => key a = some index
  simpa only [decide_eq_true_iff] using hlists

/-- An access lands on the owner of the member that its target resolves to. -/
theorem typeLandings_eq (g : Graph) :
    ((ReverseIndex.landings g).filterMap fun landing =>
      (g.declaringType? landing.1).map fun owner => (owner, landing.2)) =
    g.accesses.toList.filterMap fun a =>
      ((g.resolve a.target).bind g.declaringType?).map fun owner => (owner, a.id) := by
  rw [landings_eq, List.filterMap_filterMap]
  apply List.filterMap_congr
  intro a _
  cases g.resolve a.target <;> rfl

end Lists

section Linked

variable {table : NameTable} {classes : List ClassRecord}

namespace Linkable

variable (L : Linkable table classes)
include L

/-- What a target of a linked graph resolves to is a member of a type of the graph. -/
theorem exists_member_of_resolve {id : TargetId} {m : MemberId}
    (h : (build table classes).resolve id = some m) :
    ∃ node, (build table classes).members[m]? = some node ∧
      node.owner < (build table classes).types.size := by
  obtain ⟨target, -, htarget⟩ := Option.bind_eq_some_iff.1 h
  obtain ⟨node, hnode, -, -⟩ := exists_denotes_of_resolveTarget L.nodup htarget
  refine ⟨node, hnode, L.wellFormed.closed.members node (Array.mem_of_getElem? hnode) _ ?_⟩
  simp [MemberNode.typeIds]

theorem listsAscending_accessesToMember (m : MemberId) :
    ListsAscending (fun a => (build table classes).resolvedTarget a = some m)
      ((ReverseIndex.ofGraph (build table classes)).accessesToMember m) := by
  have hlt : ∀ a ∈ (build table classes).accesses, ∀ i,
      (build table classes).resolve a.target = some i →
        i < (build table classes).members.size := by
    intro a _ i hi
    obtain ⟨node, hnode, -⟩ := L.exists_member_of_resolve hi
    exact (Array.getElem?_eq_some_iff.1 hnode).1
  have hlists := L.wellFormed.indexed.listsAscending_distribute hlt m
  rw [ReverseIndex.accessesToMember, ReverseIndex.ofGraph, landings_eq]
  simpa only [resolvedTarget, Option.bind_eq_some_iff] using hlists

theorem listsAscending_accessesToType (type : TypeId) :
    ListsAscending (fun a => (build table classes).LandsOn a type)
      ((ReverseIndex.ofGraph (build table classes)).accessesToType type) := by
  have hlt : ∀ a ∈ (build table classes).accesses, ∀ i,
      ((build table classes).resolve a.target).bind (build table classes).declaringType? =
        some i → i < (build table classes).types.size := by
    intro a _ i hi
    obtain ⟨m, hm, howner⟩ := Option.bind_eq_some_iff.1 hi
    obtain ⟨node, hnode, hsize⟩ := L.exists_member_of_resolve hm
    rw [declaringType?, hnode, Option.map_some, Option.some.injEq] at howner
    exact howner ▸ hsize
  have hlists := L.wellFormed.indexed.listsAscending_distribute hlt type
  rw [ReverseIndex.accessesToType, ReverseIndex.ofGraph, typeLandings_eq]
  simpa only [landsOn_iff] using hlists

/-- The list of a type is what comes of merging the lists of its members. -/
theorem accessesToType_eq_mergeAll {type : TypeId} {node : TypeNode}
    (hnode : (build table classes).types[type]? = some node) :
    (ReverseIndex.ofGraph (build table classes)).accessesToType type =
      mergeAll (node.members.map
        (ReverseIndex.ofGraph (build table classes)).accessesToMember) := by
  obtain ⟨hnodup, hmembers⟩ := L.wellFormed.owned.members type node hnode
  refine (L.listsAscending_accessesToType type).eq_mergeAll L.listsAscending_accessesToMember
    hnodup ?_ fun a => ?_
  · intro m m' a ha ha'
    exact Option.some.inj (ha.symm.trans ha')
  · constructor
    · rintro ⟨m, member, hm, hmember, howner⟩
      exact ⟨m, (hmembers m).2 ⟨member, hmember, howner⟩, hm⟩
    · rintro ⟨m, hmem, hm⟩
      obtain ⟨member, hmember, howner⟩ := (hmembers m).1 hmem
      exact ⟨m, member, hm, hmember, howner⟩

end Linkable

end Linked

/-! ## The inverse of resolution -/

/-- A reverse index is the inverse of resolution: it has a list for each member and for each type;
the list of a member holds the accesses that resolve to it and that of a type those that resolve to
one of its members, in the order of their numbers, and is what comes of merging the lists of these
members; so an access that resolves stands in one list of either sort, and another one in none. -/
structure InvertsResolution (g : Graph) (index : ReverseIndex) : Prop where
  memberLists : index.byMember.size = g.members.size
  typeLists : index.byType.size = g.types.size
  accessesToMember : ∀ m,
    ListsAscending (fun a => g.resolvedTarget a = some m) (index.accessesToMember m)
  accessesToType : ∀ type, ListsAscending (fun a => g.LandsOn a type) (index.accessesToType type)
  merged : ∀ type node, g.types[type]? = some node →
    index.accessesToType type = mergeAll (node.members.map index.accessesToMember)
  once : ∀ a m, g.resolvedTarget a = some m →
    (∃ own < g.members.size, ∀ other, a ∈ index.accessesToMember other ↔ other = own) ∧
      ∃ own < g.types.size, ∀ other, a ∈ index.accessesToType other ↔ other = own
  absent : ∀ a, g.resolvedTarget a = none →
    (∀ m, a ∉ index.accessesToMember m) ∧ ∀ type, a ∉ index.accessesToType type

theorem Linkable.invertsResolution {table : NameTable} {classes : List ClassRecord}
    (L : Linkable table classes) :
    (build table classes).InvertsResolution (ReverseIndex.ofGraph (build table classes)) where
  memberLists := size_distribute _ _
  typeLists := size_distribute _ _
  accessesToMember := L.listsAscending_accessesToMember
  accessesToType := L.listsAscending_accessesToType
  merged _ _ := L.accessesToType_eq_mergeAll
  once a m hm := by
    obtain ⟨access, -, hresolve⟩ := Option.bind_eq_some_iff.1 hm
    obtain ⟨node, hnode, howner⟩ := L.exists_member_of_resolve hresolve
    refine ⟨⟨m, (Array.getElem?_eq_some_iff.1 hnode).1, fun other => ?_⟩,
      node.owner, howner, fun other => ?_⟩
    · rw [(L.listsAscending_accessesToMember other).mem, hm, Option.some.injEq, eq_comm]
    · rw [(L.listsAscending_accessesToType other).mem]
      constructor
      · rintro ⟨m', node', hm', hnode', rfl⟩
        cases hm.symm.trans hm'
        cases hnode.symm.trans hnode'
        rfl
      · rintro rfl
        exact ⟨m, node, hm, hnode, rfl⟩
  absent a hnone := by
    refine ⟨fun m hmem => ?_, fun type hmem => ?_⟩
    · have hm := ((L.listsAscending_accessesToMember m).mem a).1 hmem
      exact Option.some_ne_none m (hm.symm.trans hnone)
    · obtain ⟨m, -, hm, -⟩ := ((L.listsAscending_accessesToType type).mem a).1 hmem
      exact Option.some_ne_none m (hm.symm.trans hnone)

/-- The reverse index of a linked graph is the inverse of resolution. -/
theorem invertsResolution_of_link {g : Graph} {names : List String} {policy : DuplicatePolicy}
    {classes : List ClassRecord} (hlink : link (NameTable.ofList names) policy classes = .ok g) :
    g.InvertsResolution (ReverseIndex.ofGraph g) := by
  obtain ⟨table, kept, -, rfl, L⟩ := linkable_of_link hlink
  exact L.invertsResolution

/-! ### Calls in turn -/

/-- A call without parameters. -/
def plainCall (kind : ReferenceKind) (owner name : String) : MemberReference :=
  ⟨kind, owner, false, name, "()V", [], "void", 0, 0⟩

/-- The class `A` has the methods `m` and `n`, and `D` calls them in turn, and a constructor of a
class that is not there. -/
def callsInTurn : List ClassRecord :=
  [plainRecord .plain "A" [] [plainMethod, { plainMethod with name := "n" }],
    plainRecord .plain "D" []
      [{ plainMethod with
        name := "run"
        references :=
          [plainCall .invokeVirtual "A" "n", plainCall .invokeSpecial "X" "<init>",
            plainCall .invokeVirtual "A" "m", plainCall .invokeVirtual "A" "n"] }]]

/-- The names that these classes mention. -/
def callNames : NameTable := ⟨["java.lang.Object", "A", "D", "void", "X"]⟩

theorem link_callsInTurn :
    link (NameTable.ofList []) .fail callsInTurn = .ok (build callNames callsInTurn) := by
  have hmentions : mentions callsInTurn =
      ["java.lang.Object", "A", "D", "A", "java.lang.Object", "void", "void", "D",
        "java.lang.Object", "void", "A", "void", "X", "void", "A", "void", "A", "void"] := by
    cbv
  exact link_of_mentions (by decide) hmentions rfl

/-- The list of `A` is merged of those of its methods, and the call that lands nowhere is in
none. -/
theorem invertsResolution_callsInTurn :
    ∃ g, link (NameTable.ofList []) .fail callsInTurn = .ok g ∧
      g.InvertsResolution (ReverseIndex.ofGraph g) ∧
      (ReverseIndex.ofGraph g).accessesToMember 0 = [2] ∧
      (ReverseIndex.ofGraph g).accessesToMember 1 = [0, 3] ∧
      (ReverseIndex.ofGraph g).accessesToType 1 = [0, 2, 3] ∧ g.resolvedTarget 1 = none := by
  refine ⟨_, link_callsInTurn, invertsResolution_of_link link_callsInTurn, ?_, ?_, ?_, ?_⟩
  · decide +kernel
  · decide +kernel
  · decide +kernel
  · decide +kernel

end Graph

end TypeAtlas
