import TypeAtlas.Proofs.Graph.Mentioned
import TypeAtlas.Proofs.Graph.Reordered

/-!
# What a built graph holds

Each node of a built graph comes from one place of the records: a type from the class of its name or
from the name alone (`types_build_cases`), and a member, an annotation or an access from a placed
member or a placed class (`mem_allMembers`, `mem_allAnnotations`, `mem_allAccesses`). A node stands
at its own number and nothing else does, so what is known of a node may be said of its number.
-/

set_option autoImplicit false

namespace TypeAtlas

open ClassFile (MemberReference)

/-! ## Arenas -/

section Arena

variable {α : Type} {id : α → Nat} {nodes : List α} {total : Nat}
  (hids : nodes.map id = List.range' 0 total)
include hids

/-- Nodes of an arena are told apart by their numbers. -/
theorem eq_of_ids {node other : α} (hnode : node ∈ nodes) (hother : other ∈ nodes)
    (h : id node = id other) : node = other := by
  have hsame := getElem?_of_ids hids hother
  rw [← h, getElem?_of_ids hids hnode] at hsame
  exact Option.some.inj hsame

/-- What stands at a number is the node of that number. -/
theorem getElem?_iff_of_ids {i : Nat} {node : α} :
    nodes[i]? = some node ↔ node ∈ nodes ∧ id node = i := by
  constructor
  · exact fun h => ⟨List.mem_of_getElem? h, id_of_getElem? hids h⟩
  · rintro ⟨hmem, rfl⟩
    exact getElem?_of_ids hids hmem

end Arena

theorem map_snd_numbered {α : Type} (first : Nat) (list : List α) :
    (numbered first list).map Prod.snd = list := by
  rw [numbered, List.map_snd_zip]
  simp [numbersFor]

/-! ## Placed classes and members -/

section Placed

variable {n : Numbering} {classes : List ClassRecord} {p q : PlacedClass} {m : PlacedMember}

theorem record_mem_of_placed (hp : p ∈ placeClasses n classes) : p.record ∈ classes := by
  rw [← map_record_placeClasses n classes]
  exact List.mem_map_of_mem hp

/-- Placing keeps the members of a class in their order. -/
theorem map_member_placeMembers (n : Numbering) (members : List DeclaredMember) :
    (placeMembers n members).map PlacedMember.member = members := by
  induction members generalizing n with
  | nil => rfl
  | cons m rest ih => rw [placeMembers, List.map_cons, ih]

theorem map_member_of_placed (hp : p ∈ placeClasses n classes) :
    p.members.map PlacedMember.member = p.record.declaredMembers := by
  rw [eq_placeClass_of_mem hp]
  exact map_member_placeMembers _ _

theorem member_mem_of_placed (hp : p ∈ placeClasses n classes) (hm : m ∈ p.members) :
    m.member ∈ p.record.declaredMembers := by
  rw [← map_member_of_placed hp]
  exact List.mem_map_of_mem hm

section Distinct

variable (hdistinct : (classes.map ClassRecord.name).Nodup)
include hdistinct

theorem eq_of_placed_name (hp : p ∈ placeClasses n classes) (hq : q ∈ placeClasses n classes)
    (h : p.record.name = q.record.name) : p = q := by
  have hnames : ((placeClasses n classes).map fun p => p.record.name).Nodup := by
    rw [← map_record_placeClasses n classes, List.map_map] at hdistinct
    exact hdistinct
  exact List.inj_on_of_nodup_map hnames hp hq h

/-- A placed class is the one that is found under its name. -/
theorem find?_record_of_placed (hp : p ∈ placeClasses n classes) :
    (placeClasses n classes).find? (fun q => q.record.name == p.record.name) = some p := by
  cases hfind : (placeClasses n classes).find? fun q => q.record.name == p.record.name with
  | none => exact absurd (beq_self_eq_true _) (List.find?_eq_none.1 hfind p hp)
  | some q =>
    have hname := List.find?_some hfind
    rw [eq_of_placed_name hdistinct (List.mem_of_find?_eq_some hfind) hp (eq_of_beq hname)]

end Distinct

/-- The members of the classes, each at its place. -/
def placedMembers (classes : List ClassRecord) : List PlacedMember :=
  (placeClasses {} classes).flatMap PlacedClass.members

/-- The placed members are numbered from zero on. -/
theorem map_start_placedMembers (classes : List ClassRecord) :
    (placedMembers classes).map (·.start.members) =
      List.range' 0 (classes.map ClassRecord.memberCount).sum := by
  rw [← Link.map_id_members {} classes, placedMembers, List.map_flatMap, List.map_flatMap]
  simp only [List.map_map]
  rfl

theorem mem_placedMembers_of_mem (hp : p ∈ placeClasses {} classes) (hm : m ∈ p.members) :
    m ∈ placedMembers classes :=
  List.mem_flatMap.2 ⟨p, hp, hm⟩

/-- The references of a placed member are references of the classes. -/
theorem reference_mem_of_placed (hm : m ∈ placedMembers classes) {r : MemberReference}
    (hr : r ∈ m.member.references) : r ∈ references classes := by
  obtain ⟨p, hp, hm⟩ := List.mem_flatMap.1 hm
  refine List.mem_flatMap.2 ⟨p.record, record_mem_of_placed hp, ?_⟩
  exact List.mem_flatMap.2 ⟨m.member, member_mem_of_placed hp hm, hr⟩

end Placed

namespace Link

variable {table : NameTable} {classes : List ClassRecord}

/-! ## Nodes by their places -/

/-- The annotations of all classes and of their members, in the order of their numbers. -/
def allAnnotations (table : NameTable) (classes : List ClassRecord) : List AnnotationNode :=
  (placeClasses {} classes).flatMap (classAnnotations table)

/-- The accesses of all members, in the order of their numbers. -/
def allAccesses (classes : List ClassRecord) : List Access :=
  (placeClasses {} classes).flatMap fun p =>
    p.members.flatMap (memberAccesses (targetKeys classes))

theorem map_id_allMembers (table : NameTable) (classes : List ClassRecord) :
    (allMembers table classes).map MemberNode.id =
      List.range' 0 (classes.map ClassRecord.memberCount).sum :=
  map_id_members table classes

theorem map_id_allAnnotations (table : NameTable) (classes : List ClassRecord) :
    (allAnnotations table classes).map AnnotationNode.id =
      List.range' 0 (classes.map ClassRecord.annotationCount).sum :=
  map_id_annotations table classes

theorem map_id_allAccesses (classes : List ClassRecord) :
    (allAccesses classes).map Access.id =
      List.range' 0 (classes.map ClassRecord.accessCount).sum :=
  map_id_accesses (targetKeys classes) classes

theorem map_id_memberNodes (table : NameTable) (p : PlacedClass) :
    (p.members.map (memberNode table p.record)).map MemberNode.id =
      p.members.map (·.start.members) := by
  rw [List.map_map]
  rfl

theorem mem_allMembers {node : MemberNode} :
    node ∈ allMembers table classes ↔
      ∃ p ∈ placeClasses {} classes, ∃ m ∈ p.members, memberNode table p.record m = node := by
  simp only [allMembers, List.mem_flatMap, List.mem_map]

theorem mem_allAccesses {a : Access} :
    a ∈ allAccesses classes ↔
      ∃ m ∈ placedMembers classes, a ∈ memberAccesses (targetKeys classes) m := by
  simp only [allAccesses, placedMembers, ← List.flatMap_assoc, List.mem_flatMap]

/-- An annotation is one of a class or one of a member. -/
theorem mem_allAnnotations {a : AnnotationNode} :
    a ∈ allAnnotations table classes ↔
      (∃ p ∈ placeClasses {} classes, a ∈ annotationNodes table p.start.annotations
        (.type (table.idOf p.record.name)) p.record.annotations) ∨
      ∃ m ∈ placedMembers classes, a ∈ annotationNodes table m.start.annotations
        (.member m.start.members) m.member.annotations := by
  simp only [allAnnotations, classAnnotations, placedMembers, List.mem_flatMap, List.mem_append]
  constructor
  · rintro ⟨p, hp, h | ⟨m, hm, h⟩⟩
    · exact Or.inl ⟨p, hp, h⟩
    · exact Or.inr ⟨m, ⟨p, hp, hm⟩, h⟩
  · rintro (⟨p, hp, h⟩ | ⟨m, ⟨p, hp, hm⟩, h⟩)
    · exact ⟨p, hp, Or.inl h⟩
    · exact ⟨p, hp, Or.inr ⟨m, hm, h⟩⟩

/-- The nodes of numbered entries carry the entries. -/
theorem mem_annotationNodes {first : AnnotationId} {owner : AnnotationOwner}
    {annotations : List (AnnotationTree String)} {a : AnnotationNode}
    (h : a ∈ annotationNodes table first owner annotations) :
    a.owner = owner ∧ ∃ tree ∈ annotations, a.tree = tree.map table.idOf := by
  obtain ⟨entry, hentry, rfl⟩ := List.mem_map.1 h
  exact ⟨rfl, entry.2, (List.of_mem_zip hentry).2, rfl⟩

/-- The annotations on a type are those of the class of its number. -/
theorem mem_annotations_of_type {a : AnnotationNode} {i : TypeId} :
    a ∈ allAnnotations table classes ∧ a.owner = .type i ↔
      ∃ p ∈ placeClasses {} classes, table.idOf p.record.name = i ∧
        a ∈ annotationNodes table p.start.annotations (.type (table.idOf p.record.name))
          p.record.annotations := by
  constructor
  · rintro ⟨ha, howner⟩
    rcases mem_allAnnotations.1 ha with ⟨p, hp, h⟩ | ⟨m, -, h⟩
    · rw [(mem_annotationNodes h).1, AnnotationOwner.type.injEq] at howner
      exact ⟨p, hp, howner, h⟩
    -- an annotation of a member is on no type
    · rw [(mem_annotationNodes h).1] at howner
      cases howner
  · rintro ⟨p, hp, rfl, h⟩
    exact ⟨mem_allAnnotations.2 (Or.inl ⟨p, hp, h⟩), (mem_annotationNodes h).1⟩

/-- The annotations on a member are those of the placed member of its number. -/
theorem mem_annotations_of_member {a : AnnotationNode} {i : MemberId} :
    a ∈ allAnnotations table classes ∧ a.owner = .member i ↔
      ∃ m ∈ placedMembers classes, m.start.members = i ∧
        a ∈ annotationNodes table m.start.annotations (.member m.start.members)
          m.member.annotations := by
  constructor
  · rintro ⟨ha, howner⟩
    rcases mem_allAnnotations.1 ha with ⟨p, -, h⟩ | ⟨m, hm, h⟩
    -- an annotation of a class is on no member
    · rw [(mem_annotationNodes h).1] at howner
      cases howner
    · rw [(mem_annotationNodes h).1, AnnotationOwner.member.injEq] at howner
      exact ⟨m, hm, howner, h⟩
  · rintro ⟨m, hm, rfl, h⟩
    exact ⟨mem_allAnnotations.2 (Or.inr ⟨m, hm, h⟩), (mem_annotationNodes h).1⟩

theorem mem_memberAccesses {keys : List TargetKey} {m : PlacedMember} {a : Access}
    (h : a ∈ memberAccesses keys m) :
    a.origin = m.start.members ∧
      ∃ r ∈ m.member.references, a.target = targetOf keys r ∧ a.kind = accessKind r := by
  obtain ⟨entry, hentry, rfl⟩ := List.mem_map.1 h
  exact ⟨rfl, entry.2, (List.of_mem_zip hentry).2, rfl, rfl⟩

end Link

namespace Graph

variable {table : NameTable} {classes : List ClassRecord}

theorem members_build : (build table classes).members = (Link.allMembers table classes).toArray :=
  rfl

theorem annotations_build :
    (build table classes).annotations = (Link.allAnnotations table classes).toArray :=
  rfl

theorem accesses_build : (build table classes).accesses = (Link.allAccesses classes).toArray := rfl

theorem targets_build : (build table classes).targets = (Link.targetNodes table classes).toArray :=
  rfl

/-- At a number of a built graph stands the node of a class, or of a name that no class has. -/
theorem types_build_cases {i : TypeId} {node : TypeNode}
    (h : (build table classes).types[i]? = some node) :
    (∃ p ∈ placeClasses {} classes, table.names[i]? = some p.record.name ∧
      node = { Link.importedNode table i p with
        subtypes := (Link.below table classes)[i]?.getD [] }) ∨
    (∃ name, table.names[i]? = some name ∧ (∀ c ∈ classes, c.name ≠ name) ∧
      node = { Link.stubNode table (Link.interfaceUses classes) i name with
        subtypes := (Link.below table classes)[i]?.getD [] }) := by
  rw [getElem?_types_build] at h
  obtain ⟨name, hname, rfl⟩ := Option.map_eq_some_iff.1 h
  unfold Link.openNode Link.typeNode
  cases hfind : (placeClasses {} classes).find? fun p => p.record.name == name with
  | some p =>
    refine Or.inl ⟨p, List.mem_of_find?_eq_some hfind, ?_, rfl⟩
    rw [name_of_find?_placeClasses hfind]
    exact hname
  | none =>
    refine Or.inr ⟨name, hname, fun c hc heq => ?_, rfl⟩
    rw [← map_record_placeClasses {} classes] at hc
    obtain ⟨p, hp, rfl⟩ := List.mem_map.1 hc
    exact List.find?_eq_none.1 hfind p hp (beq_iff_eq.2 heq)

/-- The number of a placed member is that of a member. -/
theorem start_lt_size {m : PlacedMember} (hm : m ∈ placedMembers classes) :
    m.start.members < (build table classes).members.size := by
  obtain ⟨p, hp, hm⟩ := List.mem_flatMap.1 hm
  have hget := getElem?_of_ids (Link.map_id_allMembers table classes) (Link.memberNode_mem hp hm)
  rw [members_build, List.size_toArray]
  exact (List.getElem?_eq_some_iff.1 hget).1

/-- At the number that an access aims at stands the target of a reference with the same key. -/
theorem exists_targets_build (table : NameTable) {r : MemberReference}
    (hr : r ∈ references classes) :
    ∃ r' ∈ references classes, targetKey r' = targetKey r ∧
      (build table classes).targets[Link.targetOf (targetKeys classes) r]? =
        some (Link.targetNode table (Link.targetOf (targetKeys classes) r) r') := by
  have hkeys : targetKey r ∈ targetKeys classes := by
    rw [targetKeys_eq, mem_distinct]
    exact List.mem_map_of_mem hr
  obtain ⟨r', hr', hkey⟩ := List.mem_map.1 hkeys
  have htarget : Link.targetOf (targetKeys classes) r' = Link.targetOf (targetKeys classes) r :=
    congrArg (targetKeys classes).idxOf hkey
  have hmem : Link.targetNode table (Link.targetOf (targetKeys classes) r) r' ∈
      Link.targetNodes table classes := by
    rw [Reordered.targetNodes_eq_map, ← htarget]
    exact List.mem_map_of_mem hr'
  refine ⟨r', mem_of_mem_distinctOn hr', hkey, ?_⟩
  rw [targets_build, List.getElem?_toArray]
  exact getElem?_of_ids (Link.map_id_targetNodes table classes) hmem

namespace Linkable

variable (L : Linkable table classes)
include L

theorem name_mem {p : PlacedClass} (hp : p ∈ placeClasses {} classes) :
    p.record.name ∈ table.names :=
  L.mem_of_class (record_mem_of_placed hp) ClassRecord.name_mem_mentions

/-- At the number of a class stands the node of the class. -/
theorem getElem?_types_placed {p : PlacedClass} (hp : p ∈ placeClasses {} classes) :
    (build table classes).types[table.idOf p.record.name]? =
      some { Link.importedNode table (table.idOf p.record.name) p with
        subtypes := (Link.below table classes)[table.idOf p.record.name]?.getD [] } := by
  rw [getElem?_types_build, NameTable.getElem?_idOf (L.name_mem hp), Option.map_some, Link.openNode,
    Link.typeNode,
    find?_record_of_placed L.distinct hp]

/-- The node of a class is found under its name. -/
theorem find?_placed {p : PlacedClass} (hp : p ∈ placeClasses {} classes) :
    (build table classes).find? p.record.name =
      some { Link.importedNode table (table.idOf p.record.name) p with
        subtypes := (Link.below table classes)[table.idOf p.record.name]?.getD [] } := by
  show (table.find? p.record.name).bind ((build table classes).types[·]?) = _
  rw [NameTable.find?_eq_some_iff.2 ⟨L.name_mem hp, rfl⟩, Option.bind_some,
    L.getElem?_types_placed hp]

/-- Placed classes are told apart by the numbers of their names. -/
theorem eq_of_placed_id {p q : PlacedClass} (hp : p ∈ placeClasses {} classes)
    (hq : q ∈ placeClasses {} classes) (h : table.idOf p.record.name = table.idOf q.record.name) :
    p = q :=
  eq_of_placed_name L.distinct hp hq ((NameTable.idOf_inj (L.name_mem hp)).1 h)

end Linkable

end Graph

end TypeAtlas
