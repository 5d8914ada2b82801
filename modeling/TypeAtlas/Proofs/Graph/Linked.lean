import TypeAtlas.Proofs.Graph.FirstRecords
import TypeAtlas.Proofs.Graph.Naming
import TypeAtlas.Proofs.Graph.Placement
import TypeAtlas.Graph.Resolution

/-!
# Linked graphs

What stands at a number of a linked graph: the node of the name with that number
(`getElem?_types_build`), and the members of a linked class in the order of its record
(`membersOf_build`). A member is found under its own number (`getElem?_members_of_mem`) and belongs
to the type that lists it (`owner_of_mem`).
-/

set_option autoImplicit false

namespace TypeAtlas

/-! ## Kept records -/

section Kept

variable {policy : DuplicatePolicy} {classes kept : List ClassRecord}

/-- The records that are linked have different names. -/
theorem dedupe_nodup (h : ClassRecord.dedupe policy classes = .ok kept) :
    (kept.map ClassRecord.name).Nodup :=
  (ClassRecord.keepsFirsts_of_dedupe h).distinct

theorem mem_of_mem_dedupe (h : ClassRecord.dedupe policy classes = .ok kept) :
    ∀ c ∈ kept, c ∈ classes :=
  fun _ hc => (ClassRecord.keepsFirsts_of_dedupe h).sublist.subset hc

/-- For each record, one of its name is kept. -/
theorem name_mem_of_dedupe (h : ClassRecord.dedupe policy classes = .ok kept) :
    ∀ c ∈ classes, c.name ∈ kept.map ClassRecord.name :=
  fun c hc => ((ClassRecord.keepsFirsts_of_dedupe h).names.mem c.name).2 (List.mem_map_of_mem hc)

/-- Records of different names are all kept. -/
theorem dedupe_of_nodup (hdistinct : (classes.map ClassRecord.name).Nodup) :
    ClassRecord.dedupe policy classes = .ok classes := by
  have hfree : ∀ c ∈ classes, ClassRecord.conflict? classes c = none := by
    refine ClassRecord.forall_conflict?_eq_none_iff.2 fun a ha b hb hname => ?_
    rw [List.inj_on_of_nodup_map hdistinct ha hb hname]
    exact ClassRecord.SameStructure.refl b
  rw [ClassRecord.dedupe_eq, List.findSome?_eq_none_iff.2 hfree, distinctOn_of_nodup hdistinct]
  cases policy <;> rfl

end Kept

/-- Linking builds the graph of the kept records on the table extended by all that they mention. -/
theorem link_eq_ok_iff {table : NameTable} {policy : DuplicatePolicy} {classes : List ClassRecord}
    {g : Graph} :
    Graph.link table policy classes = .ok g ↔
      ∃ kept, ClassRecord.dedupe policy classes = .ok kept ∧
        g = Graph.build (table.insertAll (mentions kept)) kept := by
  unfold Graph.link
  cases h : ClassRecord.dedupe policy classes with
  | error e => simp [Except.map]
  | ok kept =>
    constructor
    · intro hg
      simp only [Except.map, Except.ok.injEq] at hg
      exact ⟨kept, rfl, hg.symm⟩
    · rintro ⟨kept', hk, rfl⟩
      cases hk
      rfl

/-- Records of different names make the graph that is built on the table extended by the names they
mention. -/
theorem link_of_mentions {table table' : NameTable} {policy : DuplicatePolicy}
    {classes : List ClassRecord} {names : List String}
    (hdistinct : (classes.map ClassRecord.name).Nodup) (hmentions : mentions classes = names)
    (htable : table.insertAll names = table') :
    Graph.link table policy classes = .ok (Graph.build table' classes) := by
  rw [link_eq_ok_iff]
  refine ⟨classes, dedupe_of_nodup hdistinct, ?_⟩
  rw [hmentions, htable]

/-! ## Nodes of types -/

theorem getElem?_numbered {α : Type} (list : List α) (i : Nat) :
    (numbered 0 list)[i]? = list[i]?.map fun x => (i, x) := by
  by_cases hi : i < list.length
  · have hz : i < (numbered 0 list).length := by simpa [numbered, numbersFor] using hi
    rw [List.getElem?_eq_getElem hz, List.getElem?_eq_getElem hi, Option.map_some]
    simp [numbered, numbersFor]
  · have hz : ¬ i < (numbered 0 list).length := by simpa [numbered, numbersFor] using hi
    rw [List.getElem?_eq_none (Nat.le_of_not_lt hz), List.getElem?_eq_none (Nat.le_of_not_lt hi)]
    rfl

namespace Link

variable (table : NameTable) (classes : List ClassRecord)

/-- The node of a name, its subtypes left open. -/
def openNode (id : TypeId) (name : String) : TypeNode :=
  typeNode table (placeClasses {} classes) (interfaceUses classes) id name

/-- The types directly below each number. -/
def below : Array (List TypeId) :=
  let nodes := (numbered 0 table.names).map fun (id, name) => openNode table classes id name
  distribute nodes.length (nodes.flatMap upwardEdges)

theorem id_typeNode (placed : List PlacedClass) (uses : List String) (id : TypeId)
    (name : String) : (typeNode table placed uses id name).id = id := by
  unfold typeNode
  split <;> rfl

/-- The node made for a name bears that name. -/
theorem name_typeNode (placed : List PlacedClass) (uses : List String) (id : TypeId)
    (name : String) : (typeNode table placed uses id name).name = name := by
  unfold typeNode
  split
  · rename_i p hfind
    have hname := List.find?_some hfind
    exact eq_of_beq hname
  · rfl

end Link

section Build

variable {table : NameTable} {classes : List ClassRecord}

/-- At the number of a name stands the node of that name. -/
theorem getElem?_types_build (i : Nat) :
    (Graph.build table classes).types[i]? = table.names[i]?.map fun name =>
      { Link.openNode table classes i name with
        subtypes := (Link.below table classes)[i]?.getD [] } := by
  have hlist : (Graph.build table classes).types[i]? =
      (Link.typeNodes table classes (placeClasses {} classes))[i]? := by
    simp [Graph.build]
  rw [hlist, Link.typeNodes, Link.withSubtypes, List.getElem?_map, List.getElem?_map,
    getElem?_numbered]
  cases table.names[i]? with
  | none => rfl
  | some name =>
    simp only [Option.map_some, Link.below, Link.openNode, Link.id_typeNode]

/-- There is one type for each name. -/
theorem size_types_build : (Graph.build table classes).types.size = table.names.length := by
  simp [Graph.build, Link.typeNodes, Link.withSubtypes, numbered, numbersFor]

/-- The members of all classes, in the order of their numbers. -/
def Link.allMembers (table : NameTable) (classes : List ClassRecord) : List MemberNode :=
  (placeClasses {} classes).flatMap fun p => p.members.map (Link.memberNode table p.record)

theorem getElem?_members_build (i : Nat) :
    (Graph.build table classes).members[i]? = (Link.allMembers table classes)[i]? := by
  rw [Graph.build, List.getElem?_toArray]
  rfl

theorem Link.memberNode_mem {p : PlacedClass} {m : PlacedMember}
    (hp : p ∈ placeClasses {} classes) (hm : m ∈ p.members) :
    Link.memberNode table p.record m ∈ Link.allMembers table classes :=
  List.mem_flatMap.2 ⟨p, hp, List.mem_map_of_mem hm⟩

/-- A type that no class declares lists no members. -/
theorem membersOf_build_of_none {i : Nat}
    (h : ∀ name, table.names[i]? = some name →
      (placeClasses {} classes).find? (fun p => p.record.name == name) = none) :
    (Graph.build table classes).membersOf i = [] := by
  unfold Graph.membersOf
  rw [getElem?_types_build]
  cases hname : table.names[i]? with
  | none => rfl
  | some name =>
    simp only [Option.map_some, Link.openNode, Link.typeNode, h name hname]
    rfl

/-- The members of a linked class, in the order of its record. -/
theorem membersOf_build {i : Nat} {name : String} {p : PlacedClass}
    (hname : table.names[i]? = some name)
    (hfind : (placeClasses {} classes).find? (fun p => p.record.name == name) = some p) :
    (Graph.build table classes).membersOf i = p.members.map (Link.memberNode table p.record) := by
  -- each number listed for the class leads to the node of its member
  have hget : ∀ m ∈ p.members, (Graph.build table classes).members[m.start.members]? =
      some (Link.memberNode table p.record m) := by
    intro m hm
    rw [getElem?_members_build]
    exact getElem?_of_ids (Link.map_id_members table classes)
      (Link.memberNode_mem (List.mem_of_find?_eq_some hfind) hm)
  unfold Graph.membersOf
  rw [getElem?_types_build, hname]
  simp only [Option.map_some, Link.openNode, Link.typeNode, hfind, Link.importedNode]
  rw [List.filterMap_map, ← List.filterMap_eq_map]
  exact List.filterMap_congr hget

/-- The record of a placed class that is found under a name bears that name. -/
theorem name_of_find?_placeClasses {name : String} {p : PlacedClass}
    (hfind : (placeClasses {} classes).find? (fun p => p.record.name == name) = some p) :
    p.record.name = name := by
  have hbeq := List.find?_some hfind
  exact eq_of_beq hbeq

/-- A listed member is one that the class of the type declares. -/
theorem exists_placed_of_mem {i : Nat} {m : MemberNode}
    (h : m ∈ (Graph.build table classes).membersOf i) :
    ∃ p ∈ placeClasses {} classes, table.names[i]? = some p.record.name ∧
      ∃ placed ∈ p.members, Link.memberNode table p.record placed = m := by
  cases hname : table.names[i]? with
  | none =>
    rw [membersOf_build_of_none fun name hn => by rw [hname] at hn; cases hn] at h
    exact absurd h List.not_mem_nil
  | some name =>
    cases hfind : (placeClasses {} classes).find? (fun p => p.record.name == name) with
    | none =>
      -- a name without a class: its node is a stub
      have hempty : (Graph.build table classes).membersOf i = [] := by
        apply membersOf_build_of_none
        intro other hother
        rw [hname] at hother
        cases hother
        exact hfind
      rw [hempty] at h
      exact absurd h List.not_mem_nil
    | some p =>
      rw [membersOf_build hname hfind] at h
      obtain ⟨placed, hplaced, hm⟩ := List.mem_map.1 h
      refine ⟨p, List.mem_of_find?_eq_some hfind, ?_, placed, hplaced, hm⟩
      rw [name_of_find?_placeClasses hfind]

/-- A listed member stands at its own number. -/
theorem getElem?_members_of_mem {i : Nat} {m : MemberNode}
    (h : m ∈ (Graph.build table classes).membersOf i) :
    (Graph.build table classes).members[m.id]? = some m := by
  obtain ⟨p, hp, -, placed, hplaced, rfl⟩ := exists_placed_of_mem h
  rw [getElem?_members_build]
  exact getElem?_of_ids (Link.map_id_members table classes) (Link.memberNode_mem hp hplaced)

/-- A listed member belongs to the type that lists it. -/
theorem owner_of_mem {i : Nat} {m : MemberNode} (hnodup : table.names.Nodup)
    (h : m ∈ (Graph.build table classes).membersOf i) : m.owner = i := by
  obtain ⟨p, -, hname, placed, -, rfl⟩ := exists_placed_of_mem h
  exact NameTable.idOf_of_getElem? hnodup hname

theorem declaringType?_of_mem {i : Nat} {m : MemberNode} (hnodup : table.names.Nodup)
    (h : m ∈ (Graph.build table classes).membersOf i) :
    (Graph.build table classes).declaringType? m.id = some i := by
  rw [Graph.declaringType?, getElem?_members_of_mem h, Option.map_some, owner_of_mem hnodup h]

end Build

end TypeAtlas
