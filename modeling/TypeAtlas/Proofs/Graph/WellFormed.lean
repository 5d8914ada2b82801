import TypeAtlas.Proofs.Graph.Completeness
import TypeAtlas.Proofs.Graph.Ownership
import TypeAtlas.Proofs.Graph.Referenced

/-!
# Linked graphs are well formed

Whatever is linked, and whatever names were numbered before, the graph is well formed
(`wellFormed_of_link`): nodes stand at their own numbers and types at the numbers of their names
(`Indexed`), every number in a node is that of a node (`Closed`), lists hold what belongs to their
node (`Owned`), and accesses share their targets (`TargetsShared`). Each part is a lemma about the
graph that is built of records on a table that numbers what they mention.
-/

set_option autoImplicit false

namespace TypeAtlas

open ClassFile (MemberReference)

/-! ## Keys and owners -/

/-- What tells the targets of a graph apart. -/
def AccessTarget.key (target : AccessTarget) : TargetKind × TypeId × String × String :=
  (target.kind, target.owner, target.name, target.descriptor)

/-- The kind of the targets that accesses of a kind aim at. -/
def AccessKind.targetKind : AccessKind → TargetKind
  | .fieldRead | .fieldWrite => .field
  | .methodCall => .method
  | .constructorCall => .constructor

/-- The owner of an annotation is a type or a member of a graph. -/
def AnnotationOwner.InGraph (g : Graph) : AnnotationOwner → Prop
  | .type id => id < g.types.size
  | .member id => id < g.members.size

namespace Graph

/-! ## Well-formed graphs -/

/-- Nodes stand at their own numbers, and types at the numbers of their names. -/
structure Indexed (g : Graph) : Prop where
  types : ∀ (i : TypeId) (node : TypeNode), g.types[i]? = some node → node.id = i
  names : ∀ name i,
    g.names.find? name = some i ↔ ∃ node, g.types[i]? = some node ∧ node.name = name
  members : ∀ (i : MemberId) (m : MemberNode), g.members[i]? = some m → m.id = i
  annotations : ∀ (i : AnnotationId) (a : AnnotationNode), g.annotations[i]? = some a → a.id = i
  targets : ∀ (i : TargetId) (target : AccessTarget), g.targets[i]? = some target → target.id = i
  accesses : ∀ (i : AccessId) (a : Access), g.accesses[i]? = some a → a.id = i

/-- What a node refers to by number is there. -/
structure Closed (g : Graph) : Prop where
  root : g.root < g.types.size
  types : ∀ node ∈ g.types, ∀ id ∈ node.typeIds, id < g.types.size
  members : ∀ m ∈ g.members, ∀ id ∈ m.typeIds, id < g.types.size
  annotations : ∀ a ∈ g.annotations, a.owner.InGraph g ∧ ∀ id ∈ a.tree.types, id < g.types.size
  targets : ∀ target ∈ g.targets, ∀ id ∈ target.typeIds, id < g.types.size
  accesses : ∀ a ∈ g.accesses, a.origin < g.members.size ∧ a.target < g.targets.size

/-- The lists of a node hold what belongs to it, each entry once. -/
structure Owned (g : Graph) : Prop where
  members : ∀ i node, g.types[i]? = some node →
    Lists g.members (fun m => m.owner = i) node.members
  typeAnnotations : ∀ i node, g.types[i]? = some node →
    Lists g.annotations (fun a => a.owner = .type i) node.annotations
  memberAnnotations : ∀ i m, g.members[i]? = some m →
    Lists g.annotations (fun a => a.owner = .member i) m.annotations
  accesses : ∀ i m, g.members[i]? = some m → Lists g.accesses (fun a => a.origin = i) m.accesses

/-- Targets differ, some access aims at each of them, and its kind fits. -/
structure TargetsShared (g : Graph) : Prop where
  distinct : (g.targets.toList.map AccessTarget.key).Nodup
  used : ∀ target ∈ g.targets, ∃ a ∈ g.accesses, a.target = target.id
  kinds : ∀ a ∈ g.accesses, ∃ target, g.targets[a.target]? = some target ∧
    target.kind = a.kind.targetKind

/-- The numbers of a graph are in order. -/
structure WellFormed (g : Graph) : Prop where
  indexed : g.Indexed
  closed : g.Closed
  owned : g.Owned
  shared : g.TargetsShared

/-! ## Edges at a node -/

section Edges

variable {g : Graph} {a b c : TypeId}

theorem extends_iff_of_types {node : TypeNode} (h : g.types[a]? = some node) :
    g.Extends a b ↔ b ∈ node.supertype.toList ++ node.interfaces := by
  rw [Extends, supertype?, interfaces, h, Option.bind_some, List.mem_append, Option.mem_toList]

theorem exists_node_of_extends (h : g.Extends a b) : ∃ node, g.types[a]? = some node :=
  ⟨_, Array.getElem?_eq_getElem h.lt_typeCount⟩

/-- In a well-formed graph edges lead to types. -/
theorem Closed.lt_of_extends (hclosed : g.Closed) (h : g.Extends a b) : b < g.typeCount := by
  obtain ⟨node, hnode⟩ := exists_node_of_extends h
  have hids := hclosed.types node (Array.mem_of_getElem? hnode) b
  rcases List.mem_append.1 ((extends_iff_of_types hnode).1 h) with hsuper | hinterface
  · exact hids (by simp [TypeNode.typeIds, hsuper])
  · exact hids (by simp [TypeNode.typeIds, hinterface])

/-- What lies above a type of a well-formed graph is a type. -/
theorem Closed.lt_of_reflTransGen (hclosed : g.Closed) (ha : a < g.typeCount)
    (h : Relation.ReflTransGen g.Extends a b) : b < g.typeCount := by
  rcases Relation.ReflTransGen.cases_tail h with rfl | ⟨c, -, hstep⟩
  · exact ha
  · exact hclosed.lt_of_extends hstep

/-- In a well-formed graph the owner of a target is a type. -/
theorem Closed.owner_lt (hclosed : g.Closed) {id : TargetId} {target : AccessTarget}
    (h : g.targets[id]? = some target) : target.owner < g.typeCount :=
  hclosed.targets target (Array.mem_of_getElem? h) target.owner (by simp [AccessTarget.typeIds])

end Edges

/-! ## Nodes at their numbers -/

section Build

variable {table : NameTable} {classes : List ClassRecord}

/-- The table gives a name the number at which the type of the name stands. -/
theorem find?_names_iff (hnodup : table.names.Nodup) (name : String) (i : TypeId) :
    table.find? name = some i ↔
      ∃ node, (build table classes).types[i]? = some node ∧ node.name = name := by
  have hname := map_name_types_build table classes i
  have hnumber : table.find? name = some i ↔ table.names[i]? = some name := by
    rw [NameTable.find?_eq_some_iff]
    constructor
    · rintro ⟨hmem, rfl⟩
      exact NameTable.getElem?_idOf hmem
    · intro h
      exact ⟨List.mem_of_getElem? h, NameTable.idOf_of_getElem? hnodup h⟩
  rw [hnumber, ← hname, Option.map_eq_some_iff]

namespace Linkable

variable (L : Linkable table classes)
include L

theorem indexed : (build table classes).Indexed where
  types i node h := by
    rw [getElem?_types_build] at h
    obtain ⟨name, -, rfl⟩ := Option.map_eq_some_iff.1 h
    exact Link.id_typeNode table _ _ i name
  names := find?_names_iff L.nodup
  members i m h := by
    rw [members_build, List.getElem?_toArray] at h
    exact id_of_getElem? (Link.map_id_allMembers table classes) h
  annotations i a h := by
    rw [annotations_build, List.getElem?_toArray] at h
    exact id_of_getElem? (Link.map_id_allAnnotations table classes) h
  targets i target h := by
    rw [targets_build, List.getElem?_toArray] at h
    exact id_of_getElem? (Link.map_id_targetNodes table classes) h
  accesses i a h := by
    rw [accesses_build, List.getElem?_toArray] at h
    exact id_of_getElem? (Link.map_id_allAccesses classes) h

end Linkable

/-! ## Numbers of types -/

/-- Subtypes are types. -/
theorem below_lt_size (i : TypeId) :
    ∀ id ∈ (Link.below table classes)[i]?.getD [], id < (build table classes).types.size := by
  intro id hid
  rw [Link.below] at hid
  obtain hlt | hle := Nat.lt_or_ge i
    ((numbered 0 table.names).map fun entry => Link.openNode table classes entry.1 entry.2).length
  -- the bucket of a type holds numbers of nodes that were distributed
  · rw [getElem?_distribute hlt, Option.getD_some, bucket] at hid
    obtain ⟨edge, hedge, rfl⟩ := List.mem_map.1 hid
    obtain ⟨node, hnode, hedge⟩ := List.mem_flatMap.1 (List.mem_filter.1 hedge).1
    obtain ⟨above, -, rfl⟩ := List.mem_map.1 hedge
    obtain ⟨entry, hentry, rfl⟩ := List.mem_map.1 hnode
    have hnumber := (List.of_mem_zip hentry).1
    rw [numbersFor, List.mem_range'_1, Nat.zero_add] at hnumber
    have hid : (Link.openNode table classes entry.1 entry.2).id = entry.1 :=
      Link.id_typeNode table _ _ _ _
    rw [size_types_build]
    exact hid ▸ hnumber.2
  · rw [getElem?_distribute_of_le hle] at hid
    exact absurd hid List.not_mem_nil

theorem find?_lt_size {name : String} {id : TypeId} (h : table.find? name = some id) :
    id < (build table classes).types.size := by
  obtain ⟨hmem, rfl⟩ := NameTable.find?_eq_some_iff.1 h
  exact idOf_lt_size hmem

namespace Linkable

variable (L : Linkable table classes)
include L

/-- The types that a type refers to are there. -/
theorem types_lt_size :
    ∀ node ∈ (build table classes).types, ∀ id ∈ node.typeIds,
      id < (build table classes).types.size := by
  intro node hnode id hid
  obtain ⟨i, hi⟩ := Array.getElem?_of_mem hnode
  rw [TypeNode.typeIds, List.mem_append, List.mem_append, Option.mem_toList] at hid
  rcases hid with (hid | hcomponent) | hbelow
  · exact L.lt_size_of_mentioned (mentioned_of_types hi hid)
  · have hlook : (build table classes).componentType? i = some id := by
      rw [componentType?, hi, Option.bind_some, hcomponent]
    obtain ⟨_, _, _, _, hfind⟩ := exists_component hlook
    exact find?_lt_size hfind
  · have hsubtypes : node.subtypes = (Link.below table classes)[i]?.getD [] := by
      rcases types_build_cases hi with ⟨-, -, -, rfl⟩ | ⟨-, -, -, rfl⟩ <;> rfl
    exact below_lt_size i id (hsubtypes ▸ hbelow)

/-- What an annotation is on is there. -/
theorem owner_inGraph {a : AnnotationNode} (ha : a ∈ (build table classes).annotations) :
    a.owner.InGraph (build table classes) := by
  rw [annotations_build, List.mem_toArray, Link.mem_allAnnotations] at ha
  rcases ha with ⟨p, hp, ha⟩ | ⟨m, hm, ha⟩
  · rw [(Link.mem_annotationNodes ha).1]
    exact idOf_lt_size (L.name_mem hp)
  · rw [(Link.mem_annotationNodes ha).1]
    exact start_lt_size hm

end Linkable

/-! ## Accesses and targets -/

/-- A reference aims at the kind of target that its kind of access asks for. -/
theorem targetKind_accessKind (r : MemberReference) :
    (accessKind r).targetKind = targetKind r := by
  unfold accessKind targetKind
  cases r.kind.isFieldAccess <;> cases r.kind.isWrite <;> cases r.isConstructorCall <;> rfl

/-- An access is made by a member, by way of one of its references. -/
theorem exists_reference_of_access {a : Access} (ha : a ∈ (build table classes).accesses) :
    ∃ m ∈ placedMembers classes, a.origin = m.start.members ∧
      ∃ r ∈ references classes, a.target = Link.targetOf (targetKeys classes) r ∧
        a.kind = accessKind r := by
  rw [accesses_build, List.mem_toArray, Link.mem_allAccesses] at ha
  obtain ⟨m, hm, ha⟩ := ha
  obtain ⟨horigin, r, hr, htarget, hkind⟩ := Link.mem_memberAccesses ha
  exact ⟨m, hm, horigin, r, reference_mem_of_placed hm hr, htarget, hkind⟩

theorem accesses_lt_size :
    ∀ a ∈ (build table classes).accesses, a.origin < (build table classes).members.size ∧
      a.target < (build table classes).targets.size := by
  intro a ha
  obtain ⟨m, hm, horigin, r, hr, htarget, -⟩ := exists_reference_of_access ha
  obtain ⟨r', -, -, hnode⟩ := exists_targets_build table hr
  rw [horigin, htarget]
  exact ⟨start_lt_size hm, (Array.getElem?_eq_some_iff.1 hnode).1⟩

/-- Some access is made for each reference. -/
theorem exists_access_of_reference {r : MemberReference} (hr : r ∈ references classes) :
    ∃ a ∈ (build table classes).accesses, a.target = Link.targetOf (targetKeys classes) r := by
  obtain ⟨c, hc, hr⟩ := List.mem_flatMap.1 hr
  obtain ⟨declared, hdeclared, hr⟩ := List.mem_flatMap.1 hr
  rw [← map_record_placeClasses {} classes] at hc
  obtain ⟨p, hp, rfl⟩ := List.mem_map.1 hc
  rw [← map_member_of_placed hp] at hdeclared
  obtain ⟨m, hm, rfl⟩ := List.mem_map.1 hdeclared
  rw [← map_snd_numbered m.start.accesses m.member.references] at hr
  obtain ⟨entry, hentry, rfl⟩ := List.mem_map.1 hr
  -- the access that is numbered with the reference
  refine ⟨⟨entry.1, m.start.members, _, accessKind entry.2, entry.2.line⟩, ?_, rfl⟩
  rw [accesses_build, List.mem_toArray, Link.mem_allAccesses]
  exact ⟨m, mem_placedMembers_of_mem hp hm, List.mem_map_of_mem hentry⟩

namespace Linkable

variable (L : Linkable table classes)
include L

/-- The keys of targets differ, by owners that are numbered as much as by names. -/
theorem nodup_keys :
    ((build table classes).targets.toList.map AccessTarget.key).Nodup := by
  have hkeys : (build table classes).targets.toList.map AccessTarget.key =
      (targetKeys classes).map fun key =>
        (key.kind, table.idOf key.owner, key.name, key.descriptor) := by
    rw [targets_build, List.toList_toArray, Reordered.targetNodes_eq_map, targetKeys, List.map_map,
      List.map_map]
    rfl
  rw [hkeys]
  refine List.Nodup.map_on ?_ (Reordered.nodup_targetKeys classes)
  intro key hkey other _ hsame
  simp only [Prod.mk.injEq] at hsame
  obtain ⟨hkind, howner, hname, hdescriptor⟩ := hsame
  rw [targetKeys_eq, mem_distinct] at hkey
  obtain ⟨r, hr, rfl⟩ := List.mem_map.1 hkey
  have hmem : r.owner ∈ table.names := L.mem_of_reference hr List.mem_cons_self
  rw [TargetKey.mk.injEq]
  exact ⟨hkind, (NameTable.idOf_inj hmem).1 howner, hname, hdescriptor⟩

theorem targetsShared : (build table classes).TargetsShared where
  distinct := L.nodup_keys
  used := by
    intro target htarget
    rw [targets_build, List.mem_toArray, Reordered.targetNodes_eq_map] at htarget
    obtain ⟨r, hr, rfl⟩ := List.mem_map.1 htarget
    exact exists_access_of_reference (mem_of_mem_distinctOn hr)
  kinds := by
    intro a ha
    obtain ⟨-, -, -, r, hr, htarget, hkind⟩ := exists_reference_of_access ha
    obtain ⟨r', -, hkey, hnode⟩ := exists_targets_build table hr
    refine ⟨_, htarget ▸ hnode, ?_⟩
    rw [hkind, targetKind_accessKind]
    exact congrArg TargetKey.kind hkey

theorem wellFormed : (build table classes).WellFormed where
  indexed := L.indexed
  closed :=
    { root := L.lt_size_of_mentioned mentioned_root
      types := L.types_lt_size
      members := fun _ hm id hid => L.lt_size_of_mentioned (mentioned_of_members hm id hid)
      annotations := fun _ ha =>
        ⟨L.owner_inGraph ha, fun id hid =>
          L.lt_size_of_mentioned (mentioned_of_annotations ha id hid)⟩
      targets := fun _ htarget id hid =>
        L.lt_size_of_mentioned (mentioned_of_targets htarget id hid)
      accesses := accesses_lt_size }
  owned :=
    { members := fun _ _ => L.lists_members
      typeAnnotations := fun _ _ => L.lists_typeAnnotations
      memberAnnotations := fun _ _ => lists_memberAnnotations
      accesses := fun _ _ => lists_accesses }
  shared := L.targetsShared

end Linkable

end Build

/-- Linking gives a well-formed graph, whatever names were numbered before. -/
theorem wellFormed_of_link {names : List String} {policy : DuplicatePolicy}
    {classes : List ClassRecord} {g : Graph}
    (hlink : link (NameTable.ofList names) policy classes = .ok g) : g.WellFormed := by
  obtain ⟨table, kept, -, rfl, L⟩ := linkable_of_link hlink
  exact L.wellFormed

/-! ### An annotated class with two calls -/

/-- A class with an annotation, whose method calls `C.m()` twice. -/
def annotatedCaller : ClassRecord :=
  let unit := { callingMethod with
    references := callingMethod.references ++ callingMethod.references }
  { plainRecord .plain "D" [] [unit] with annotations := [⟨"LMark;", "Mark", []⟩] }

/-- The two calls share a target, in a graph that is well formed. -/
theorem wellFormed_annotatedCaller :
    ∃ g, link (NameTable.ofList ["D[]"]) .fail [annotatedCaller] = .ok g ∧ g.WellFormed ∧
      g.annotations.size = 1 ∧ g.accesses.size = 2 ∧ g.targets.size = 1 := by
  have hlink : link (NameTable.ofList ["D[]"]) .fail [annotatedCaller] =
      .ok (build ((NameTable.ofList ["D[]"]).insertAll (mentions [annotatedCaller]))
        [annotatedCaller]) := rfl
  exact ⟨_, hlink, wellFormed_of_link hlink, rfl, rfl, rfl⟩

end Graph

end TypeAtlas
