import TypeAtlas.Proofs.Graph.Dependents
import TypeAtlas.Proofs.Graph.Portrait

/-!
# Names of base types and arrays

Types are told apart by name alone. The word for a base type and the name of an array type belong
to types without a declaration, and the node of such a name is primitive or an array, without
members, as long as no linked class bears the name (`Linkable.spelledBy_idOf`). The reader takes any
text for the name of a class, so a class may bear it: then whatever mentions the base type or the
array is linked to the class, which counts as a dependency (`int_captured`). What descriptors are
linked to is exactly this (`reservesNames_of_link`).
-/

set_option autoImplicit false

namespace TypeAtlas

open ClassFile (MemberReference map_eq_ok_iff signatureTypes)

/-! ## Reserved names -/

/-- The names that belong to types without a declaration: those of an array type and its component
types, and the word for a base type, each with the kind of such a type. -/
def FieldType.reserved : FieldType → List (String × TypeKind)
  | .base type => [(type.typeName, .primitive)]
  | .object _ => []
  | .array component => (Text.arrayOf component.typeName, .array) :: component.reserved

def ReturnType.reserved : ReturnType → List (String × TypeKind)
  | .void => [(ReturnType.void.typeName, .primitive)]
  | .value type => type.reserved

/-- The types in the descriptor of a field, or of a code unit: its parameters and its result. -/
def descriptorTypes (isField : Bool) (descriptor : String) : Except Fault (List ReturnType) :=
  if isField then (FieldType.parse descriptor).map fun type => [.value type]
  else (MethodType.parse descriptor).map fun type => type.params.map .value ++ [type.result]

/-- A reserved name is that of an array or a word for a base type. -/
theorem FieldType.stubKind_of_reserved {type : FieldType} {name : String} {kind : TypeKind}
    (h : (name, kind) ∈ type.reserved) (uses : List String) :
    Link.stubKind uses name = kind ∧ (kind = .primitive ∨ kind = .array) := by
  induction type with
  | base type =>
    cases List.mem_singleton.1 h
    refine ⟨?_, Or.inl rfl⟩
    cases type <;> rfl
  | object _ => exact absurd h List.not_mem_nil
  | array component ih =>
    rcases List.mem_cons.1 h with hhead | hrest
    · cases hhead
      rw [Link.stubKind, Text.componentOf_arrayOf]
      exact ⟨rfl, Or.inr rfl⟩
    · exact ih hrest

theorem ReturnType.stubKind_of_reserved {type : ReturnType} {name : String} {kind : TypeKind}
    (h : (name, kind) ∈ type.reserved) (uses : List String) :
    Link.stubKind uses name = kind ∧ (kind = .primitive ∨ kind = .array) := by
  cases type with
  | void =>
    cases List.mem_singleton.1 h
    exact ⟨rfl, Or.inl rfl⟩
  | value type => exact FieldType.stubKind_of_reserved h uses

/-- With a type, its reserved names are mentioned. -/
theorem FieldType.mem_mentions_of_reserved {classes : List ClassRecord} {type : FieldType}
    (hmentioned : type.typeName ∈ mentions classes) {name : String} {kind : TypeKind}
    (h : (name, kind) ∈ type.reserved) : name ∈ mentions classes := by
  induction type with
  | base type =>
    cases List.mem_singleton.1 h
    exact hmentioned
  | object _ => exact absurd h List.not_mem_nil
  | array component ih =>
    rcases List.mem_cons.1 h with hhead | hrest
    · cases hhead
      exact hmentioned
    · exact ih (componentOf_mem_mentions hmentioned (Text.componentOf_arrayOf _)) hrest

theorem ReturnType.mem_mentions_of_reserved {classes : List ClassRecord} {type : ReturnType}
    (hmentioned : type.typeName ∈ mentions classes) {name : String} {kind : TypeKind}
    (h : (name, kind) ∈ type.reserved) : name ∈ mentions classes := by
  cases type with
  | void =>
    cases List.mem_singleton.1 h
    exact hmentioned
  | value type => exact FieldType.mem_mentions_of_reserved hmentioned h

theorem descriptorTypes_field {descriptor : String} {type : FieldType}
    (h : FieldType.parse descriptor = .ok type) :
    descriptorTypes true descriptor = .ok [.value type] := by
  rw [descriptorTypes, if_pos rfl, h]
  rfl

theorem descriptorTypes_codeUnit {descriptor : String} {type : MethodType}
    (h : MethodType.parse descriptor = .ok type) :
    descriptorTypes false descriptor = .ok (type.params.map .value ++ [type.result]) := by
  rw [descriptorTypes, if_neg Bool.false_ne_true, h]
  rfl

/-- The types of a reference are those in its descriptor. -/
theorem exists_descriptorTypes_of_typed {r : MemberReference} (h : r.Typed) :
    ∃ types, descriptorTypes r.kind.isFieldAccess r.descriptor = .ok types ∧
      r.parameterTypes ++ [r.valueType] = types.map ReturnType.typeName := by
  obtain ⟨kind, hkind, htypes⟩ := h
  rw [← hkind]
  by_cases hfield : kind = .field
  · rw [hfield] at htypes
    obtain ⟨type, htype, hnames⟩ := map_eq_ok_iff.1 htypes
    rw [Prod.mk.injEq] at hnames
    rw [beq_iff_eq.2 hfield, ← hnames.1, ← hnames.2]
    exact ⟨_, descriptorTypes_field htype, rfl⟩
  · have hnot : (kind == .field) = false := beq_eq_false_iff_ne.2 hfield
    have hsame : signatureTypes kind r.descriptor = signatureTypes .method r.descriptor :=
      signatureTypes_congr hnot
    rw [hsame] at htypes
    obtain ⟨type, htype, hnames⟩ := map_eq_ok_iff.1 htypes
    rw [Prod.mk.injEq] at hnames
    rw [hnot, ← hnames.1, ← hnames.2]
    refine ⟨_, descriptorTypes_codeUnit htype, ?_⟩
    rw [List.map_append, List.map_map, List.map_singleton]
    rfl

/-- The types of a declared member are those in its descriptor. -/
theorem exists_descriptorTypes_of_declared {c : ClassRecord} {m : DeclaredMember}
    (hfields : ∀ f ∈ c.fields, FieldType.parse f.descriptor = .ok f.type)
    (hunits : ∀ u ∈ c.codeUnits, MethodType.parse u.descriptor = .ok u.type)
    (hm : m ∈ c.declaredMembers) :
    ∃ types, descriptorTypes (m.kind == .field) m.descriptor = .ok types ∧
      m.parameterTypes ++ [m.valueType] = types.map ReturnType.typeName := by
  rcases List.mem_append.1 hm with hm | hm
  · obtain ⟨f, hf, rfl⟩ := List.mem_map.1 hm
    exact ⟨_, descriptorTypes_field (hfields f hf), rfl⟩
  · obtain ⟨u, hu, rfl⟩ := List.mem_map.1 hm
    have hkind : (u.declared.kind == .field) = false := by
      show (MemberKind.ofCodeUnit u.kind == .field) = false
      cases u.kind <;> rfl
    refine ⟨_, hkind ▸ descriptorTypes_codeUnit (hunits u hu), ?_⟩
    rw [List.map_append, List.map_map, List.map_singleton]
    rfl

/-! ## What stands at a reserved name -/

/-- A node is that of a type without a declaration: it is known by name only, has no members, and is
of the kind. -/
structure TypeNode.Undeclared (node : TypeNode) (kind : TypeKind) : Prop where
  notImported : node.fullyImported = false
  members : node.members = []
  kind : node.kind = kind

namespace Graph

/-- A number is that of a type in a descriptor. At each reserved name of the type stands a type
without a declaration, unless a class bears the name: then there stands a linked class. -/
def SpelledBy (g : Graph) (classNames : List String) (id : TypeId) (type : ReturnType) : Prop :=
  g.names.find? type.typeName = some id ∧
  ∀ name kind, (name, kind) ∈ type.reserved →
    ∃ i node, g.names.find? name = some i ∧ g.types[i]? = some node ∧
      (name ∉ classNames → node.Undeclared kind) ∧
      (name ∈ classNames →
        node.fullyImported = true ∧ node.kind ≠ .primitive ∧ node.kind ≠ .array)

/-- The types in the descriptors of members and targets are linked to what stands at their names,
and a dependency leads to a reserved name only if a class bears it. -/
structure ReservesNames (g : Graph) (classNames : List String) : Prop where
  members : ∀ m ∈ g.members, ∃ types,
    descriptorTypes (m.kind == .field) m.descriptor = .ok types ∧
      List.Forall₂ (g.SpelledBy classNames) (m.parameters ++ [m.returnType]) types
  targets : ∀ target ∈ g.targets, ∃ types,
    descriptorTypes (target.kind == .field) target.descriptor = .ok types ∧
      List.Forall₂ (g.SpelledBy classNames) (target.parameters ++ [target.returnType]) types
  dependencies : ∀ origin, ∀ d ∈ g.dependencies origin, ∃ node,
    g.types[d.target]? = some node ∧ node.kind ≠ .primitive ∧ node.kind ≠ .array ∧
      ∀ (type : ReturnType) (kind : TypeKind), (node.name, kind) ∈ type.reserved →
        node.name ∈ classNames

theorem ofClassKind_ne (kind : ClassKind) :
    TypeKind.ofClassKind kind ≠ .primitive ∧ TypeKind.ofClassKind kind ≠ .array := by
  cases kind <;> decide

namespace Linkable

variable {table : NameTable} {classes : List ClassRecord} (L : Linkable table classes)
  {classNames : List String}
  (hclasses : ∀ name, name ∈ classNames ↔ name ∈ classes.map ClassRecord.name)
include L hclasses

/-- What a mentioned type is linked to. -/
theorem spelledBy_idOf {type : ReturnType} (hmentioned : type.typeName ∈ mentions classes) :
    (build table classes).SpelledBy classNames (table.idOf type.typeName) type := by
  refine ⟨NameTable.find?_eq_some_iff.2 ⟨L.mentioned _ hmentioned, rfl⟩, ?_⟩
  intro name kind hreserved
  have hmem := L.mentioned _ (ReturnType.mem_mentions_of_reserved hmentioned hreserved)
  have hname := NameTable.getElem?_idOf hmem
  obtain ⟨node, hnode⟩ : ∃ node, (build table classes).types[table.idOf name]? = some node := by
    rw [getElem?_types_build, hname]
    exact ⟨_, rfl⟩
  refine ⟨_, node, NameTable.find?_eq_some_iff.2 ⟨hmem, rfl⟩, hnode, ?_⟩
  rw [hclasses]
  rcases types_build_cases hnode with ⟨p, hp, hplaced, rfl⟩ | ⟨other, hother, hnone, rfl⟩
  -- a class bears the name
  · have hsame : p.record.name = name := Option.some.inj (hplaced.symm.trans hname)
    have hborne : name ∈ classes.map ClassRecord.name :=
      hsame ▸ List.mem_map_of_mem (record_mem_of_placed hp)
    have hkind := ofClassKind_ne p.record.kind
    exact ⟨fun hnot => absurd hborne hnot, fun _ => ⟨rfl, hkind.1, hkind.2⟩⟩
  -- no class does
  · cases hother.symm.trans hname
    refine ⟨fun _ => ⟨rfl, rfl, (ReturnType.stubKind_of_reserved hreserved _).1⟩, fun hborne => ?_⟩
    obtain ⟨c, hc, hsame⟩ := List.mem_map.1 hborne
    exact absurd hsame (hnone c hc)

theorem forall₂_spelledBy {names : List String} {types : List ReturnType}
    (hnames : names = types.map ReturnType.typeName)
    (hmentioned : ∀ name ∈ names, name ∈ mentions classes) :
    List.Forall₂ ((build table classes).SpelledBy classNames) (names.map table.idOf) types := by
  subst hnames
  rw [List.map_map, List.forall₂_map_left_iff, List.forall₂_same]
  intro type htype
  exact L.spelledBy_idOf hclasses (hmentioned _ (List.mem_map_of_mem htype))

theorem reservesNames
    (hfields : ∀ c ∈ classes, ∀ f ∈ c.fields, FieldType.parse f.descriptor = .ok f.type)
    (hunits : ∀ c ∈ classes, ∀ u ∈ c.codeUnits, MethodType.parse u.descriptor = .ok u.type)
    (htyped : ∀ r ∈ references classes, r.Typed) :
    (build table classes).ReservesNames classNames where
  members := by
    intro m hm
    rw [members_build, List.mem_toArray] at hm
    obtain ⟨p, hp, placed, hplaced, rfl⟩ := Link.mem_allMembers.1 hm
    have hc := record_mem_of_placed hp
    have hdeclared := member_mem_of_placed hp hplaced
    obtain ⟨types, htypes, hnames⟩ :=
      exists_descriptorTypes_of_declared (hfields _ hc) (hunits _ hc) hdeclared
    refine ⟨types, htypes, ?_⟩
    have hspelled := L.forall₂_spelledBy hclasses hnames fun name hname =>
      mem_mentions_of_class hc (ClassRecord.member_mem_mentions hdeclared ?_)
    · rwa [List.map_append] at hspelled
    · rcases List.mem_append.1 hname with hparameter | hvalue
      · exact DeclaredMember.parameterType_mem_mentions hparameter
      · rw [List.mem_singleton.1 hvalue]
        exact DeclaredMember.valueType_mem_mentions
  targets := by
    intro target htarget
    rw [targets_build, List.mem_toArray, Reordered.targetNodes_eq_map] at htarget
    obtain ⟨r, hr, rfl⟩ := List.mem_map.1 htarget
    have hreference := mem_of_mem_distinctOn hr
    obtain ⟨types, htypes, hnames⟩ := exists_descriptorTypes_of_typed (htyped r hreference)
    have hkind : (targetKind r == .field) = r.kind.isFieldAccess := by
      unfold targetKind
      cases r.kind.isFieldAccess <;> cases r.isConstructorCall <;> rfl
    refine ⟨types, hkind ▸ htypes, ?_⟩
    have hspelled := L.forall₂_spelledBy hclasses hnames fun name hname =>
      mem_mentions_of_reference hreference (List.mem_cons_of_mem _ hname)
    rwa [List.map_append] at hspelled
  dependencies := by
    intro origin d hd
    obtain ⟨-, -, node, hnode, harray, hprimitive⟩ := L.ends_of_mem_dependencies hd
    refine ⟨node, hnode, hprimitive, harray, fun type kind hreserved => ?_⟩
    rw [hclasses]
    rcases types_build_cases hnode with ⟨p, hp, -, rfl⟩ | ⟨name, -, -, rfl⟩
    · exact List.mem_map_of_mem (record_mem_of_placed hp)
    -- a name that no class bears is that of a primitive type or an array
    · obtain ⟨hkind, hcases⟩ := ReturnType.stubKind_of_reserved hreserved
        (Link.interfaceUses classes)
      rcases hcases with rfl | rfl
      · exact absurd hkind hprimitive
      · exact absurd hkind harray

end Linkable

/-- In the graph of parsed classes, the types in descriptors are linked to types without a
declaration where no class bears a reserved name, and to the class where one does. -/
theorem reservesNames_of_link {g : Graph} {names : List String} {policy : DuplicatePolicy}
    {classes : List ClassRecord} (hlink : link (NameTable.ofList names) policy classes = .ok g)
    (hparsed : ∀ c ∈ classes, ∃ bytes, ClassRecord.parse bytes = .ok c) :
    g.ReservesNames (classes.map ClassRecord.name) := by
  obtain ⟨table, kept, hkept, rfl, L⟩ := linkable_of_link hlink
  have hparsed' : ∀ c ∈ kept, ∃ bytes, ClassRecord.parse bytes = .ok c :=
    fun c hc => hparsed c (mem_of_mem_dedupe hkept c hc)
  have hclasses : ∀ name, name ∈ classes.map ClassRecord.name ↔
      name ∈ kept.map ClassRecord.name :=
    fun name => ((ClassRecord.keepsFirsts_of_dedupe hkept).names.mem name).symm
  exact L.reservesNames hclasses (fieldTypes_of_parse hparsed') (methodTypes_of_parse hparsed')
    (typed_references_of_parse hparsed')

/-! ### A class named as a base type -/

section Captured

open Assembly

/-- A class with the name `int`, which has a field. -/
def intClass : ClassSpec := (ClassSpec.plain "int").addField { name := "x", descriptor := "J" }

/-- A class with a field of the base type. -/
def counterClass : ClassSpec := (ClassSpec.plain "C").addField { name := "n", descriptor := "I" }

/-- The names that the two classes mention. -/
def counterNames : NameTable := ⟨["java.lang.Object", "int", "C", "long"]⟩

/-- The two classes, what the graph holds about the field, and what the second class mentions. -/
structure Counter (c d : ClassRecord) : Prop where
  intParsed : ClassRecord.parse intClass.assemble = .ok c
  counterParsed : ClassRecord.parse counterClass.assemble = .ok d
  names : [c, d].map ClassRecord.name = ["int", "C"]
  linked : link (NameTable.ofList []) .fail [c, d] = .ok (build counterNames [c, d])
  field : (build counterNames [c, d]).members[1]?.map
    (fun m => (m.kind, m.descriptor, m.returnType)) = some (MemberKind.field, "I", 1)
  captured : (build counterNames [c, d]).types[1]?.map
    (fun node => (node.name, node.fullyImported, node.members, node.kind)) =
      some ("int", true, [0], TypeKind.plain)
  mentions : (build counterNames [c, d]).types[2]?.map (fun node =>
    (node.id, node.fullyImported, (build counterNames [c, d]).typeMentions node)) =
      some (2, true, [(0, .superclass), (1, .fieldType 1)])
  component : (build counterNames [c, d]).componentType? 1 = none
  notPrimitive : (build counterNames [c, d]).isPrimitiveType 1 = false

theorem exists_counter : ∃ c d, Counter c d := by
  obtain ⟨c, hc, hd⟩ : ∃ c, ClassRecord.parse intClass.assemble = .ok c ∧
      ((ClassRecord.parse counterClass.assemble).map fun d =>
        decide ([c, d].map ClassRecord.name = ["int", "C"] ∧
          [c, d].flatMap ClassRecord.mentions =
            ["int", "java.lang.Object", "long", "C", "java.lang.Object", "int"] ∧
          (build counterNames [c, d]).members[1]?.map
            (fun m : MemberNode => (m.kind, m.descriptor, m.returnType)) =
              some (MemberKind.field, "I", 1) ∧
          (build counterNames [c, d]).types[1]?.map
            (fun node : TypeNode => (node.name, node.fullyImported, node.members, node.kind)) =
              some ("int", true, [0], TypeKind.plain) ∧
          (build counterNames [c, d]).types[2]?.map (fun node : TypeNode =>
            (node.id, node.fullyImported, (build counterNames [c, d]).typeMentions node)) =
              some (2, true, [(0, .superclass), (1, .fieldType 1)]) ∧
          (build counterNames [c, d]).componentType? 1 = none ∧
          (build counterNames [c, d]).isPrimitiveType 1 = false)).toOption = some true :=
    exists_of_toOption_map (by decide +kernel)
  obtain ⟨d, hd, hfacts⟩ := exists_of_toOption_map hd
  obtain ⟨hnames, hmentioned, hfield, hcaptured, hmentions, hcomponent, hprimitive⟩ :=
    of_decide_eq_true hfacts
  refine ⟨c, d, hc, hd, hnames, ?_, hfield, hcaptured, hmentions, hcomponent, hprimitive⟩
  have hall : TypeAtlas.mentions [c, d] = ["java.lang.Object", "int", "C", "int",
      "java.lang.Object", "long", "C", "java.lang.Object", "int"] := by
    rw [TypeAtlas.mentions, hmentioned, hnames]
    cbv
  have hdistinct : ([c, d].map ClassRecord.name).Nodup := by
    rw [hnames]
    decide
  exact link_of_mentions hdistinct hall rfl

/-- The field of the second class makes it depend on the class `int`. -/
theorem Counter.exists_dependency {c d : ClassRecord} (h : Counter c d) :
    ∃ e ∈ (build counterNames [c, d]).dependencies 2, e.target = 1 := by
  obtain ⟨node, hnode, hfacts⟩ := Option.map_eq_some_iff.1 h.mentions
  simp only [Prod.mk.injEq] at hfacts
  obtain ⟨hid, himported, hmentions⟩ := hfacts
  have hcounted : (1, .fieldType 1) ∈ (build counterNames [c, d]).countedMentions node := by
    rw [countedMentions, List.mem_filter, hmentions, hid]
    constructor
    · refine List.mem_map.2 ⟨(1, .fieldType 1), by decide, ?_⟩
      simp only [elementType_of_none h.component]
    · simp [h.notPrimitive]
  have htarget : 1 ∈ ((build counterNames [c, d]).dependencies 2).map Dependency.target := by
    rw [(gathered_dependencies hnode himported).targets, mem_distinct]
    exact List.mem_map_of_mem hcounted
  exact List.mem_map.1 htarget

/-- The type of the field, which its descriptor makes a base type, is linked to the class: its node
is fully imported, has the field of the class, is no primitive type, and counts as a dependency. -/
theorem int_captured : ∃ c d g, ClassRecord.parse intClass.assemble = .ok c ∧
    ClassRecord.parse counterClass.assemble = .ok d ∧
    link (NameTable.ofList []) .fail [c, d] = .ok g ∧
    ∃ m ∈ g.members, descriptorTypes (m.kind == .field) m.descriptor =
        .ok [.value (.base .int)] ∧
      ∃ node, g.types[m.returnType]? = some node ∧ node.fullyImported = true ∧
        node.members = [0] ∧ node.kind = .plain ∧
        ∃ e ∈ g.dependencies 2, e.target = m.returnType := by
  obtain ⟨c, d, h⟩ := exists_counter
  obtain ⟨m, hm, hfield⟩ := Option.map_eq_some_iff.1 h.field
  obtain ⟨node, hnode, hcaptured⟩ := Option.map_eq_some_iff.1 h.captured
  simp only [Prod.mk.injEq] at hfield hcaptured
  obtain ⟨hkind, hdescriptor, hreturn⟩ := hfield
  obtain ⟨-, himported, hmembers, hplain⟩ := hcaptured
  have hint : FieldType.parse m.descriptor = .ok (.base .int) := by
    rw [hdescriptor]
    rfl
  refine ⟨c, d, _, h.intParsed, h.counterParsed, h.linked, m, Array.mem_of_getElem? hm, ?_, node,
    hreturn ▸ hnode, himported, hmembers, hplain, hreturn ▸ h.exists_dependency⟩
  rw [beq_iff_eq.2 hkind]
  exact descriptorTypes_field hint

/-- The two classes meet what `reservesNames_of_link` asks for. -/
theorem reservesNames_counter : ∃ c d g, ClassRecord.parse intClass.assemble = .ok c ∧
    ClassRecord.parse counterClass.assemble = .ok d ∧
    link (NameTable.ofList []) .fail [c, d] = .ok g ∧ g.ReservesNames ["int", "C"] := by
  obtain ⟨c, d, h⟩ := exists_counter
  have hparsed : ∀ e ∈ [c, d], ∃ bytes, ClassRecord.parse bytes = .ok e := by
    simp only [List.forall_mem_cons]
    exact ⟨⟨_, h.intParsed⟩, ⟨_, h.counterParsed⟩, fun e he => absurd he List.not_mem_nil⟩
  have hreserves := reservesNames_of_link h.linked hparsed
  rw [h.names] at hreserves
  exact ⟨c, d, _, h.intParsed, h.counterParsed, h.linked, hreserves⟩

end Captured

end Graph

end TypeAtlas
