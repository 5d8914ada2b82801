import TypeAtlas.Proofs.Graph.Contents
import TypeAtlas.Proofs.Graph.RenamedDependencies

/-!
# What nodes refer to

Nodes refer to types by number. The numbers that come from the records are those of names that the
records mention (`Mentioned`): the types above and around a type (`mentioned_of_types`), and all
types of members, annotations and targets. A mentioned array type has a mentioned component, whose
name is shorter, so from a mentioned type the components lead to a type that is no array
(`Linkable.innermost_elementType`).
-/

set_option autoImplicit false

namespace TypeAtlas

open ClassFile (MemberReference)

/-! ## Numbers in nodes -/

/-- The types that a type refers to. -/
def TypeNode.typeIds (node : TypeNode) : List TypeId :=
  node.supertype.toList ++ node.interfaces ++ node.enclosingType.toList ++
    node.componentType.toList ++ node.subtypes

/-- The types that a member refers to. -/
def MemberNode.typeIds (m : MemberNode) : List TypeId :=
  m.owner :: (m.parameters ++ m.returnType :: m.throws)

/-- The types that a target refers to. -/
def AccessTarget.typeIds (target : AccessTarget) : List TypeId :=
  target.owner :: (target.parameters ++ [target.returnType])

/-! ## Components of mentioned names -/

/-- With a name, the names of its component types are listed. -/
theorem stripDimension_mem_componentsFirst (name : List Char) {other : String}
    {component : List Char} (hother : other ∈ componentsFirst name)
    (hstrip : Text.stripDimension other.toList = some component) :
    String.ofList component ∈ componentsFirst name := by
  fun_induction componentsFirst name with
  | case1 name inner hinner _ ih =>
    rcases List.mem_append.1 hother with hother | hother
    · exact List.mem_append_left _ (ih hother)
    -- the name itself: its component is the last of the names before it
    · rw [List.mem_singleton] at hother
      rw [hother, String.toList_ofList, hinner, Option.some.injEq] at hstrip
      subst hstrip
      exact List.mem_append_left _ (mem_componentsFirst inner)
  | case2 name hnone =>
    rw [List.mem_singleton] at hother
    rw [hother, String.toList_ofList, hnone] at hstrip
    cases hstrip

/-- The component of a mentioned array type is mentioned. -/
theorem componentOf_mem_mentions {classes : List ClassRecord} {name component : String}
    (hname : name ∈ mentions classes) (h : Text.componentOf name = some component) :
    component ∈ mentions classes := by
  obtain ⟨source, hsource, hname⟩ := List.mem_flatMap.1 hname
  obtain ⟨text, hstrip, rfl⟩ := Option.map_eq_some_iff.1 h
  exact List.mem_flatMap.2 ⟨source, hsource, stripDimension_mem_componentsFirst _ hname hstrip⟩

theorem length_componentOf {name component : String} (h : Text.componentOf name = some component) :
    component.length < name.length := by
  obtain ⟨text, hstrip, rfl⟩ := Option.map_eq_some_iff.1 h
  have hlength := Text.length_stripDimension hstrip
  rw [String.length_ofList, ← String.length_toList]
  omega

namespace Graph

/-! ## Numbers of mentioned names -/

/-- A number is that of a name that the records mention. -/
def Mentioned (table : NameTable) (classes : List ClassRecord) (id : TypeId) : Prop :=
  ∃ name ∈ mentions classes, table.idOf name = id

section Build

variable {table : NameTable} {classes : List ClassRecord}

theorem mentioned_root : Mentioned table classes (Link.root table) :=
  ⟨rootName, rootName_mem_mentions, rfl⟩

theorem mentioned_of_class {c : ClassRecord} {name : String} (hc : c ∈ classes)
    (h : name ∈ c.mentions) : Mentioned table classes (table.idOf name) :=
  ⟨name, mem_mentions_of_class hc h, rfl⟩

theorem mentioned_of_map {list : List String} (h : ∀ name ∈ list, name ∈ mentions classes) :
    ∀ id ∈ list.map table.idOf, Mentioned table classes id := by
  intro id hid
  obtain ⟨name, hname, rfl⟩ := List.mem_map.1 hid
  exact ⟨name, h name hname, rfl⟩

theorem mentioned_of_importedNode {p : PlacedClass} (hp : p ∈ placeClasses {} classes)
    (i : TypeId) {id : TypeId}
    (hid : id ∈ (Link.importedNode table i p).supertype.toList ++
      (Link.importedNode table i p).interfaces ++
        (Link.importedNode table i p).enclosingType.toList) :
    Mentioned table classes id := by
  have hc := record_mem_of_placed hp
  simp only [Link.importedNode, List.mem_append, Option.mem_toList] at hid
  rcases hid with (hsuper | hinterface) | henclosing
  · split at hsuper
    · rename_i name hname
      cases hsuper
      exact mentioned_of_class hc (ClassRecord.superClass_mem_mentions hname)
    -- a class without a superclass has the root for one, or is the root
    · split at hsuper
      · cases hsuper
      · cases hsuper
        exact mentioned_root
  · obtain ⟨name, hname, rfl⟩ := List.mem_map.1 hinterface
    exact mentioned_of_class hc (ClassRecord.interface_mem_mentions hname)
  · obtain ⟨name, hname, rfl⟩ := Option.map_eq_some_iff.1 henclosing
    exact mentioned_of_class hc (ClassRecord.enclosingClass_mem_mentions hname)

/-- The types above and around a type are mentioned. -/
theorem mentioned_of_types {i : TypeId} {node : TypeNode}
    (h : (build table classes).types[i]? = some node) {id : TypeId}
    (hid : id ∈ node.supertype.toList ++ node.interfaces ++ node.enclosingType.toList) :
    Mentioned table classes id := by
  rcases types_build_cases h with ⟨p, hp, -, rfl⟩ | ⟨name, -, -, rfl⟩
  · exact mentioned_of_importedNode hp i hid
  -- above a type known by name only there is the root
  · simp only [Link.stubNode, Option.toList_none, List.append_nil, Option.mem_toList] at hid
    split at hid
    · cases hid
    · cases hid
      exact mentioned_root

/-- The types of members are mentioned. -/
theorem mentioned_of_members {m : MemberNode} (hm : m ∈ (build table classes).members) :
    ∀ id ∈ m.typeIds, Mentioned table classes id := by
  rw [members_build, List.mem_toArray, Link.mem_allMembers] at hm
  obtain ⟨p, hp, m, hm, rfl⟩ := hm
  have hc := record_mem_of_placed hp
  have hmember := member_mem_of_placed hp hm
  have hids : (Link.memberNode table p.record m).typeIds =
      (p.record.name :: (m.member.parameterTypes ++ m.member.valueType :: m.member.throws)).map
        table.idOf := by
    simp only [MemberNode.typeIds, Link.memberNode, List.map_cons, List.map_append]
  rw [hids]
  apply mentioned_of_map
  intro name hname
  apply mem_mentions_of_class hc
  rcases List.mem_cons.1 hname with rfl | hname
  · exact ClassRecord.name_mem_mentions
  · apply ClassRecord.member_mem_mentions hmember
    rw [List.mem_append, List.mem_cons] at hname
    rcases hname with hparameter | rfl | hthrows
    · exact DeclaredMember.parameterType_mem_mentions hparameter
    · exact DeclaredMember.valueType_mem_mentions
    · exact DeclaredMember.throws_mem_mentions hthrows

/-- The types in annotations are mentioned. -/
theorem mentioned_of_annotations {a : AnnotationNode} (ha : a ∈ (build table classes).annotations) :
    ∀ id ∈ a.tree.types, Mentioned table classes id := by
  rw [annotations_build, List.mem_toArray, Link.mem_allAnnotations] at ha
  rcases ha with ⟨p, hp, ha⟩ | ⟨m, hm, ha⟩
  -- an annotation of a class
  · obtain ⟨-, tree, htree, hmap⟩ := Link.mem_annotationNodes ha
    rw [hmap, AnnotationTree.types_map]
    apply mentioned_of_map
    intro name hname
    apply mem_mentions_of_class (record_mem_of_placed hp)
    exact ClassRecord.annotation_mem_mentions htree hname
  -- an annotation of a member
  · obtain ⟨-, tree, htree, hmap⟩ := Link.mem_annotationNodes ha
    obtain ⟨p, hp, hm⟩ := List.mem_flatMap.1 hm
    rw [hmap, AnnotationTree.types_map]
    apply mentioned_of_map
    intro name hname
    apply mem_mentions_of_class (record_mem_of_placed hp)
    apply ClassRecord.member_mem_mentions (member_mem_of_placed hp hm)
    exact DeclaredMember.annotation_mem_mentions htree hname

/-- The types of targets are mentioned. -/
theorem mentioned_of_targets {target : AccessTarget}
    (htarget : target ∈ (build table classes).targets) :
    ∀ id ∈ target.typeIds, Mentioned table classes id := by
  rw [targets_build, List.mem_toArray, Reordered.targetNodes_eq_map] at htarget
  obtain ⟨r, hr, rfl⟩ := List.mem_map.1 htarget
  have hids : (Link.targetNode table (Link.targetOf (targetKeys classes) r) r).typeIds =
      (referenceMentions r).map table.idOf := by
    simp only [AccessTarget.typeIds, Link.targetNode, referenceMentions, List.map_cons,
      List.map_append, List.map_nil]
  rw [hids]
  apply mentioned_of_map
  intro name hname
  exact mem_mentions_of_reference (mem_of_mem_distinctOn hr) hname

/-! ## Components of types -/

/-- A component is the type of the component's name. -/
theorem exists_component {id component : TypeId}
    (h : (build table classes).componentType? id = some component) :
    ∃ name inner, table.names[id]? = some name ∧ Text.componentOf name = some inner ∧
      table.find? inner = some component := by
  obtain ⟨node, hnode, hcomponent⟩ := Option.bind_eq_some_iff.1 h
  rcases types_build_cases hnode with ⟨p, -, -, rfl⟩ | ⟨name, hname, -, rfl⟩
  -- a declared type has no component
  · cases hcomponent
  · obtain ⟨inner, hinner, hfind⟩ := Option.bind_eq_some_iff.1 hcomponent
    exact ⟨name, inner, hname, hinner, hfind⟩

theorem nameLength_build {id : TypeId} {name : String} (h : table.names[id]? = some name) :
    (build table classes).nameLength id = name.length := by
  have hname := map_name_types_build table classes id
  rw [h] at hname
  obtain ⟨node, hnode, rfl⟩ := Option.map_eq_some_iff.1 hname
  rw [nameLength, hnode]

/-- The name of a component is shorter than that of the array. -/
theorem nameLength_component {id component : TypeId}
    (h : (build table classes).componentType? id = some component) :
    (build table classes).nameLength component < (build table classes).nameLength id := by
  obtain ⟨name, inner, hname, hinner, hfind⟩ := exists_component h
  obtain ⟨hmem, rfl⟩ := NameTable.find?_eq_some_iff.1 hfind
  rw [nameLength_build hname, nameLength_build (NameTable.getElem?_idOf hmem)]
  exact length_componentOf hinner

theorem elementType_of_none {g : Graph} {id : TypeId} (h : g.componentType? id = none) :
    g.elementType id = id := by
  rw [elementType, h]

/-- An array type has the element type of its component. -/
theorem elementType_of_component {id component : TypeId}
    (h : (build table classes).componentType? id = some component) :
    (build table classes).elementType id = (build table classes).elementType component := by
  rw [elementType, h]
  exact dif_pos (nameLength_component h)

/-- The second type is what the first one is an array of, in the end, or the first one itself. -/
def Innermost (g : Graph) (id inner : TypeId) : Prop :=
  Relation.ReflTransGen (fun a b => g.componentType? a = some b) id inner ∧
    ∃ node, g.types[inner]? = some node ∧ node.kind ≠ .array

namespace Linkable

variable (L : Linkable table classes)
include L

theorem getElem?_names_of_mentioned {id : TypeId} (h : Mentioned table classes id) :
    ∃ name ∈ mentions classes, table.names[id]? = some name := by
  obtain ⟨name, hname, rfl⟩ := h
  exact ⟨name, hname, NameTable.getElem?_idOf (L.mentioned name hname)⟩

theorem lt_size_of_mentioned {id : TypeId} (h : Mentioned table classes id) :
    id < (build table classes).types.size := by
  obtain ⟨name, hname, rfl⟩ := h
  exact idOf_lt_size (L.mentioned name hname)

theorem mentioned_component {id component : TypeId} (hid : Mentioned table classes id)
    (h : (build table classes).componentType? id = some component) :
    Mentioned table classes component := by
  obtain ⟨name, hmem, hname⟩ := L.getElem?_names_of_mentioned hid
  obtain ⟨name', inner, hname', hinner, hfind⟩ := exists_component h
  rw [hname, Option.some.injEq] at hname'
  subst hname'
  exact ⟨inner, componentOf_mem_mentions hmem hinner, (NameTable.find?_eq_some_iff.1 hfind).2⟩

/-- A mentioned type without a component is no array. -/
theorem kind_ne_array {id : TypeId} (hid : Mentioned table classes id)
    (h : (build table classes).componentType? id = none) {node : TypeNode}
    (hnode : (build table classes).types[id]? = some node) : node.kind ≠ .array := by
  intro harray
  rw [componentType?, hnode, Option.bind_some] at h
  rcases types_build_cases hnode with ⟨p, -, -, rfl⟩ | ⟨name, hname, -, rfl⟩
  -- the kinds of declarations are not those of arrays
  · have hkind : TypeKind.ofClassKind p.record.kind = .array := harray
    cases hrecord : p.record.kind <;> rw [hrecord] at hkind <;> cases hkind
  · obtain ⟨name', hmem, hname'⟩ := L.getElem?_names_of_mentioned hid
    rw [hname, Option.some.injEq] at hname'
    subst hname'
    have hkind : Link.stubKind (Link.interfaceUses classes) name = .array := harray
    have hcomponent : (Text.componentOf name).bind table.find? = none := h
    cases hinner : Text.componentOf name with
    | some inner =>
      have hinnerMem := L.mentioned _ (componentOf_mem_mentions hmem hinner)
      rw [hinner, Option.bind_some, NameTable.find?_eq_some_iff.2 ⟨hinnerMem, rfl⟩] at hcomponent
      cases hcomponent
    | none =>
      unfold Link.stubKind at hkind
      rw [hinner, Option.isSome_none, if_neg Bool.false_ne_true] at hkind
      split at hkind
      · cases hkind
      · split at hkind <;> cases hkind

/-- The components of a mentioned type lead to its element type, which is no array. -/
theorem innermost_elementType {id : TypeId} (hid : Mentioned table classes id) :
    (build table classes).Innermost id ((build table classes).elementType id) := by
  fun_induction elementType (build table classes) id with
  | case1 id component hcomponent _ _ ih =>
    obtain ⟨hreach, hinner⟩ := ih (L.mentioned_component hid hcomponent)
    exact ⟨hreach.head hcomponent, hinner⟩
  -- the name of a component is always shorter
  | case2 id component hcomponent hlonger => exact absurd (nameLength_component hcomponent) hlonger
  | case3 id hnone =>
    have hnode := Array.getElem?_eq_getElem (L.lt_size_of_mentioned hid)
    exact ⟨.refl, _, hnode, L.kind_ne_array hid hnone hnode⟩

end Linkable

end Build

end Graph

end TypeAtlas
