import TypeAtlas.Proofs.Graph.Contents

/-!
# What belongs to a node

A type lists its members and its annotations, and a member its annotations and its accesses. Each of
the nodes listed names the node it belongs to, and each list holds what belongs to its node, all of
it, once, and nothing else (`Linkable.lists_members`, `Linkable.lists_typeAnnotations`,
`lists_memberAnnotations`, `lists_accesses`).
-/

set_option autoImplicit false

namespace TypeAtlas

/-! ## Lists of numbers -/

/-- A list holds the numbers of the nodes with a property, each once. -/
def Lists {α : Type} (nodes : Array α) (P : α → Prop) (ids : List Nat) : Prop :=
  ids.Nodup ∧ ∀ id, id ∈ ids ↔ ∃ node, nodes[id]? = some node ∧ P node

section Lists

variable {α : Type} {P : α → Prop} {id : α → Nat} {nodes own : List α} {ids : List Nat}
  {total : Nat}

/-- The numbers of the nodes with a property, in an arena numbered from zero on. -/
theorem lists_of_ids (hids : nodes.map id = List.range' 0 total) (hown : own.map id = ids)
    (hnodup : ids.Nodup) (hmem : ∀ node, node ∈ own ↔ node ∈ nodes ∧ P node) :
    Lists nodes.toArray P ids := by
  refine ⟨hnodup, fun i => ?_⟩
  simp only [← hown, List.mem_map, List.getElem?_toArray, getElem?_iff_of_ids hids, hmem]
  constructor
  · rintro ⟨node, ⟨hnode, hP⟩, hi⟩
    exact ⟨node, ⟨hnode, hi⟩, hP⟩
  · rintro ⟨node, ⟨hnode, hi⟩, hP⟩
    exact ⟨node, ⟨hnode, hP⟩, hi⟩

theorem lists_nil (h : ∀ node ∈ nodes, ¬ P node) : Lists nodes.toArray P [] := by
  refine ⟨List.nodup_nil, fun i => ⟨fun hi => absurd hi List.not_mem_nil, ?_⟩⟩
  rintro ⟨node, hnode, hP⟩
  rw [List.getElem?_toArray] at hnode
  exact absurd hP (h node (List.mem_of_getElem? hnode))

end Lists

variable {table : NameTable} {classes : List ClassRecord}

/-- The members of one class have different numbers. -/
theorem nodup_start_members {p : PlacedClass} (hp : p ∈ placeClasses {} classes) :
    (p.members.map (·.start.members)).Nodup := by
  have hall : ((placedMembers classes).map (·.start.members)).Nodup := by
    rw [map_start_placedMembers]
    exact List.nodup_range' _
  rw [placedMembers, List.map_flatMap] at hall
  exact (List.nodup_flatMap.1 hall).1 p hp

namespace Graph

/-! ## Lists of types -/

namespace Linkable

variable (L : Linkable table classes)
include L

/-- The number of a name that no class has is not that of a placed class. -/
theorem idOf_placed_ne {i : TypeId} {name : String} (hname : table.names[i]? = some name)
    (hnone : ∀ c ∈ classes, c.name ≠ name) {p : PlacedClass} (hp : p ∈ placeClasses {} classes) :
    table.idOf p.record.name ≠ i := by
  intro heq
  rw [← NameTable.idOf_of_getElem? L.nodup hname] at heq
  exact hnone _ (record_mem_of_placed hp) ((NameTable.idOf_inj (L.name_mem hp)).1 heq)

variable {i : TypeId} {node : TypeNode} (hnode : (build table classes).types[i]? = some node)
include hnode

/-- A type lists the members that it owns. -/
theorem lists_members :
    Lists (build table classes).members (fun m => m.owner = i) node.members := by
  rw [members_build]
  rcases types_build_cases hnode with ⟨p, hp, hname, rfl⟩ | ⟨name, hname, hnone, rfl⟩
  -- a linked class lists the members that are placed in it
  · have hi := NameTable.idOf_of_getElem? L.nodup hname
    have hown : ∀ m, m ∈ p.members.map (Link.memberNode table p.record) ↔
        m ∈ Link.allMembers table classes ∧ m.owner = i := by
      intro m
      rw [Link.mem_allMembers, List.mem_map]
      constructor
      · rintro ⟨placed, hplaced, rfl⟩
        exact ⟨⟨p, hp, placed, hplaced, rfl⟩, hi⟩
      · rintro ⟨⟨q, hq, placed, hplaced, rfl⟩, howner⟩
        have hsame : q = p := L.eq_of_placed_id hq hp (howner.trans hi.symm)
        subst hsame
        exact ⟨placed, hplaced, rfl⟩
    exact lists_of_ids (Link.map_id_allMembers table classes) (Link.map_id_memberNodes table p)
      (nodup_start_members hp) hown
  -- a type known by name only lists none, and owns none
  · apply lists_nil
    intro m hm
    obtain ⟨q, hq, placed, -, rfl⟩ := Link.mem_allMembers.1 hm
    exact L.idOf_placed_ne hname hnone hq

/-- A type lists the annotations that are on it. -/
theorem lists_typeAnnotations :
    Lists (build table classes).annotations (fun a => a.owner = .type i) node.annotations := by
  rw [annotations_build]
  rcases types_build_cases hnode with ⟨p, hp, hname, rfl⟩ | ⟨name, hname, hnone, rfl⟩
  · have hi := NameTable.idOf_of_getElem? L.nodup hname
    have hown : ∀ a, a ∈ Link.annotationNodes table p.start.annotations
          (.type (table.idOf p.record.name)) p.record.annotations ↔
        a ∈ Link.allAnnotations table classes ∧ a.owner = .type i := by
      intro a
      rw [Link.mem_annotations_of_type]
      constructor
      · intro h
        exact ⟨p, hp, hi, h⟩
      · rintro ⟨q, hq, hqi, h⟩
        have hsame : q = p := L.eq_of_placed_id hq hp (hqi.trans hi.symm)
        subst hsame
        exact h
    exact lists_of_ids (Link.map_id_allAnnotations table classes)
      (Link.map_id_annotationNodes table _ _ _) (List.nodup_range' _) hown
  · apply lists_nil
    intro a ha howner
    obtain ⟨q, hq, hqi, -⟩ := Link.mem_annotations_of_type.1 ⟨ha, howner⟩
    exact L.idOf_placed_ne hname hnone hq hqi

end Linkable

/-! ## Lists of members -/

/-- Placed members are told apart by their numbers. -/
theorem eq_of_start_members {m m' : PlacedMember} (hm : m ∈ placedMembers classes)
    (hm' : m' ∈ placedMembers classes) (h : m.start.members = m'.start.members) : m = m' :=
  eq_of_ids (map_start_placedMembers classes) hm hm' h

section Members

variable {i : MemberId} {node : MemberNode}
  (hnode : (build table classes).members[i]? = some node)
include hnode

/-- At a number stands the node of a placed member that starts there. -/
theorem exists_placed_of_getElem? :
    ∃ p ∈ placeClasses {} classes, ∃ m ∈ p.members, m.start.members = i ∧
      Link.memberNode table p.record m = node := by
  rw [members_build, List.getElem?_toArray,
    getElem?_iff_of_ids (Link.map_id_allMembers table classes), Link.mem_allMembers] at hnode
  obtain ⟨⟨p, hp, m, hm, rfl⟩, hi⟩ := hnode
  exact ⟨p, hp, m, hm, hi, rfl⟩

/-- A member lists the annotations that are on it. -/
theorem lists_memberAnnotations :
    Lists (build table classes).annotations (fun a => a.owner = .member i) node.annotations := by
  obtain ⟨p, hp, m, hm, rfl, rfl⟩ := exists_placed_of_getElem? hnode
  have hplaced := mem_placedMembers_of_mem hp hm
  have hown : ∀ a, a ∈ Link.annotationNodes table m.start.annotations
        (.member m.start.members) m.member.annotations ↔
      a ∈ Link.allAnnotations table classes ∧ a.owner = .member m.start.members := by
    intro a
    rw [Link.mem_annotations_of_member]
    constructor
    · intro h
      exact ⟨m, hplaced, rfl, h⟩
    · rintro ⟨m', hm', hstart, h⟩
      have hsame : m' = m := eq_of_start_members hm' hplaced hstart
      subst hsame
      exact h
  rw [annotations_build]
  exact lists_of_ids (Link.map_id_allAnnotations table classes)
    (Link.map_id_annotationNodes table _ _ _) (List.nodup_range' _) hown

/-- A member lists the accesses that it makes. -/
theorem lists_accesses :
    Lists (build table classes).accesses (fun a => a.origin = i) node.accesses := by
  obtain ⟨p, hp, m, hm, rfl, rfl⟩ := exists_placed_of_getElem? hnode
  have hplaced := mem_placedMembers_of_mem hp hm
  have hown : ∀ a, a ∈ Link.memberAccesses (targetKeys classes) m ↔
      a ∈ Link.allAccesses classes ∧ a.origin = m.start.members := by
    intro a
    rw [Link.mem_allAccesses]
    constructor
    · intro h
      exact ⟨⟨m, hplaced, h⟩, (Link.mem_memberAccesses h).1⟩
    · rintro ⟨⟨m', hm', h⟩, horigin⟩
      rw [(Link.mem_memberAccesses h).1] at horigin
      have hsame : m' = m := eq_of_start_members hm' hplaced horigin
      subst hsame
      exact h
  rw [accesses_build]
  exact lists_of_ids (Link.map_id_allAccesses classes)
    (Link.map_id_memberAccesses _ m) (List.nodup_range' _) hown

end Members

end Graph

end TypeAtlas
