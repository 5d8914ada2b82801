import Mathlib.Logic.Function.Iterate
import TypeAtlas.Proofs.Graph.StubKinds

/-!
# Elements of array types

Every type that a node of a linked graph refers to (`Holds`) has the types below it as well: an
array type is followed by the type of its name without the last `[]`
(`Linkable.component_of_array`). The loop that goes from an array type to its component has no
measure of its own. It ends since each component has a shorter name, at the first type that is no
array, and takes off one `[]` in each pass (`Linkable.peels_elementType`,
`arrays_end_in_elements`). A class may have a name in `[]`; there the loop ends, too.
-/

set_option autoImplicit false

namespace TypeAtlas.Graph

/-- A node refers to a type: a type by what lies above and around it, a member or a target by its
owner or one of its types, an annotation by its own type or inside a value. -/
inductive Holds (g : Graph) (id : TypeId) : Prop where
  | type {node : TypeNode} (h : node ∈ g.types)
    (hid : id ∈ node.supertype.toList ++ node.interfaces ++ node.enclosingType.toList)
  | member {m : MemberNode} (h : m ∈ g.members) (hid : id ∈ m.typeIds)
  | target {target : AccessTarget} (h : target ∈ g.targets) (hid : id ∈ target.typeIds)
  | annotation {a : AnnotationNode} (h : a ∈ g.annotations) (hid : id ∈ a.tree.types)

/-- One pass of the loop: from an array type to its component. Any other type is where the loop
ends. -/
def peel (g : Graph) (id : TypeId) : TypeId := (g.componentType? id).getD id

/-- A number of passes lead from a type to an element, where the loop ends. Each pass takes one `[]`
off the name of an array type. -/
structure Peels (g : Graph) (id : TypeId) (node : TypeNode) (passes : Nat) (last : TypeId)
    (element : TypeNode) : Prop where
  start : g.types[id]? = some node
  reached : g.peel^[passes] id = last
  found : g.types[last]? = some element
  ended : g.componentType? last = none
  kind : element.kind ≠ .array
  name : node.name = Text.arrayOf^[passes] element.name
  arrays : ∀ left < passes, ∃ array, g.find? (Text.arrayOf^[left + 1] element.name) = some array ∧
    array.kind = .array

section Build

variable {table : NameTable} {classes : List ClassRecord}

theorem mentioned_of_holds {id : TypeId} (h : (build table classes).Holds id) :
    Mentioned table classes id := by
  cases h with
  | type h hid =>
    obtain ⟨i, hi⟩ := Array.getElem?_of_mem h
    exact mentioned_of_types hi hid
  | member h hid => exact mentioned_of_members h id hid
  | target h hid => exact mentioned_of_targets h id hid
  | annotation h hid => exact mentioned_of_annotations h id hid

/-- A type with a component is an array type. -/
theorem kind_of_component {id component : TypeId} {node : TypeNode}
    (hnode : (build table classes).types[id]? = some node)
    (h : node.componentType = some component) : node.kind = .array := by
  rcases types_build_cases hnode with ⟨p, -, -, rfl⟩ | ⟨name, -, -, rfl⟩
  -- a declared type has no component
  · cases h
  · obtain ⟨inner, hinner, -⟩ := Option.bind_eq_some_iff.1 h
    show Link.stubKind (Link.interfaceUses classes) name = .array
    rw [Link.stubKind, hinner]
    rfl

namespace Linkable

variable (L : Linkable table classes)
include L

theorem exists_node {id : TypeId} (hid : Mentioned table classes id) :
    ∃ node, (build table classes).types[id]? = some node :=
  ⟨_, Array.getElem?_eq_getElem (L.lt_size_of_mentioned hid)⟩

/-- A type is found under its name. -/
theorem find?_name {id : TypeId} {node : TypeNode}
    (h : (build table classes).types[id]? = some node) :
    (build table classes).find? node.name = some node := by
  have hnumber : table.find? node.name = some id :=
    (find?_names_iff L.nodup node.name id).2 ⟨node, h, rfl⟩
  show (table.find? node.name).bind ((build table classes).types[·]?) = some node
  rw [hnumber, Option.bind_some, h]

/-- The component of a type has its name without the last `[]`. -/
theorem name_component {id component : TypeId} {node : TypeNode}
    (hnode : (build table classes).types[id]? = some node)
    (h : (build table classes).componentType? id = some component) :
    ∃ inner, (build table classes).types[component]? = some inner ∧
      node.name = Text.arrayOf inner.name := by
  obtain ⟨name, innerName, hname, hinner, hfind⟩ := exists_component h
  obtain ⟨inner, hnodeInner, rfl⟩ := (find?_names_iff L.nodup innerName component).1 hfind
  refine ⟨inner, hnodeInner, ?_⟩
  have hnames := map_name_types_build table classes id
  rw [hnode, hname, Option.map_some, Option.some.injEq] at hnames
  rw [hnames, Text.eq_arrayOf_of_componentOf hinner]

/-- A mentioned array type has a component, which is the type of its name without the last
`[]`. -/
theorem component_of_array {id : TypeId} {node : TypeNode} (hid : Mentioned table classes id)
    (hnode : (build table classes).types[id]? = some node) (harray : node.kind = .array) :
    ∃ component inner, node.componentType = some component ∧
      (build table classes).types[component]? = some inner ∧
      node.name = Text.arrayOf inner.name ∧
      (build table classes).find? inner.name = some inner := by
  have hlook : (build table classes).componentType? id = node.componentType := by
    rw [componentType?, hnode, Option.bind_some]
  cases hcomponent : node.componentType with
  | none => exact absurd harray (L.kind_ne_array hid (hlook.trans hcomponent) hnode)
  | some component =>
    obtain ⟨inner, hinner, hname⟩ := L.name_component hnode (hlook.trans hcomponent)
    exact ⟨component, inner, rfl, hinner, hname, L.find?_name hinner⟩

/-- From a mentioned type the loop comes to its element type. -/
theorem peels_elementType {id : TypeId} (hid : Mentioned table classes id) :
    ∃ node passes element, (build table classes).Peels id node passes
      ((build table classes).elementType id) element := by
  fun_induction elementType (build table classes) id with
  | case1 id component hcomponent _ _ ih =>
    obtain ⟨inner, passes, element, P⟩ := ih (L.mentioned_component hid hcomponent)
    obtain ⟨node, hnode⟩ := L.exists_node hid
    obtain ⟨inner', hinner, hname⟩ := L.name_component hnode hcomponent
    rw [P.start, Option.some.injEq] at hinner
    subst hinner
    -- the names of the arrays passed are those of the component, and that of the type itself
    have hwhole : node.name = Text.arrayOf^[passes + 1] element.name := by
      rw [hname, P.name, Function.iterate_succ_apply']
    refine ⟨node, passes + 1, element, ?_⟩
    exact
      { start := hnode
        reached := by
          rw [Function.iterate_succ_apply, peel, hcomponent, Option.getD_some, P.reached]
        found := P.found
        ended := P.ended
        kind := P.kind
        name := hwhole
        arrays := by
          intro left hleft
          rcases Nat.lt_succ_iff_lt_or_eq.1 hleft with hless | rfl
          · exact P.arrays left hless
          · rw [componentType?, hnode, Option.bind_some] at hcomponent
            exact ⟨node, hwhole ▸ L.find?_name hnode, kind_of_component hnode hcomponent⟩ }
  -- the name of a component is always shorter
  | case2 id component hcomponent hlonger => exact absurd (nameLength_component hcomponent) hlonger
  | case3 id hnone =>
    obtain ⟨node, hnode⟩ := L.exists_node hid
    exact ⟨node, 0, node, hnode, rfl, hnode, hnone, L.kind_ne_array hid hnone hnode, rfl,
      fun left hleft => absurd hleft (Nat.not_lt_zero left)⟩

end Linkable

end Build

/-- In a linked graph, an array type that some node refers to has a component, the type of its name
without the last `[]`; and from every type that some node refers to, the loop ends at its element
type, which is no array and whose name is left when `[]` is taken off as long as the name is that of
an array type. -/
theorem arrays_end_in_elements {g : Graph} {names : List String} {policy : DuplicatePolicy}
    {classes : List ClassRecord} (hlink : link (NameTable.ofList names) policy classes = .ok g)
    {id : TypeId} (hid : g.Holds id) :
    (∃ node, g.types[id]? = some node ∧ (node.kind = .array →
      ∃ component inner, node.componentType = some component ∧
        g.types[component]? = some inner ∧ node.name = Text.arrayOf inner.name ∧
        g.find? inner.name = some inner)) ∧
    ∃ node passes element, g.Peels id node passes (g.elementType id) element := by
  obtain ⟨table, kept, -, rfl, L⟩ := linkable_of_link hlink
  have hmentioned := mentioned_of_holds hid
  obtain ⟨node, hnode⟩ := L.exists_node hmentioned
  exact ⟨⟨node, hnode, L.component_of_array hmentioned hnode⟩, L.peels_elementType hmentioned⟩

/-! ### A class with the name of an array -/

/-- A class `A[]` with a field of type `A[][][]`. -/
def bracketed : ClassRecord :=
  { plainRecord .plain "A[]" [] [] with
    fields := [⟨"f", "[[[LA;", .array (.array (.array (.object "A"))), Modifiers.none, none, []⟩] }

/-- The names that the class mentions, after one that was numbered before. -/
def bracketedNames : NameTable :=
  ⟨["A[][][]", "java.lang.Object", "A", "A[]", "A[][]"]⟩

theorem link_bracketed : link (NameTable.ofList ["A[][][]"]) .fail [bracketed] =
    .ok (build bracketedNames [bracketed]) := by
  have hmentions : mentions [bracketed] =
      ["java.lang.Object", "A", "A[]", "A", "A[]", "java.lang.Object", "A", "A[]", "A[][]",
        "A[][][]"] := by
    cbv
  exact link_of_mentions (by decide) hmentions rfl

/-- The element type of the field is the class `A[]`. -/
theorem arrays_end_in_elements_bracketed :
    link (NameTable.ofList ["A[][][]"]) .fail [bracketed] =
        .ok (build bracketedNames [bracketed]) ∧
      (build bracketedNames [bracketed]).Holds 0 ∧
      ∃ node passes element, (build bracketedNames [bracketed]).Peels 0 node passes 3 element ∧
        element.name = "A[]" := by
  have hfield : (build bracketedNames [bracketed]).members[0]?.map MemberNode.returnType =
      some 0 := by
    decide +kernel
  obtain ⟨m, hm, hreturn⟩ := Option.map_eq_some_iff.1 hfield
  have hholds : (build bracketedNames [bracketed]).Holds 0 := by
    refine .member (Array.mem_of_getElem? hm) ?_
    rw [MemberNode.typeIds, hreturn]
    exact List.mem_cons_of_mem _ (List.mem_append_right _ List.mem_cons_self)
  have hcomponents : (build bracketedNames [bracketed]).componentType? 0 = some 4 ∧
      (build bracketedNames [bracketed]).componentType? 4 = some 3 ∧
      (build bracketedNames [bracketed]).componentType? 3 = none := by
    decide +kernel
  have helement : (build bracketedNames [bracketed]).elementType 0 = 3 :=
    (elementType_of_component hcomponents.1).trans
      ((elementType_of_component hcomponents.2.1).trans (elementType_of_none hcomponents.2.2))
  obtain ⟨-, node, passes, element, P⟩ := arrays_end_in_elements link_bracketed hholds
  rw [helement] at P
  have hname : (build bracketedNames [bracketed]).types[3]?.map TypeNode.name = some "A[]" := by
    decide +kernel
  rw [P.found, Option.map_some, Option.some.injEq] at hname
  exact ⟨link_bracketed, hholds, node, passes, element, P, hname⟩

end TypeAtlas.Graph
