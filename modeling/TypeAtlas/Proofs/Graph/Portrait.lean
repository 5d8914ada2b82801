import TypeAtlas.Proofs.Graph.Ownership
import TypeAtlas.Proofs.Graph.OrderIndependence

/-!
# Linking loses and invents nothing

A linked graph portrays the records that were kept (`portrays_of_link`): read by name, the node of a
class says of its supertypes, its members and their accesses what its record says, and the types
that are known by name only say nothing. The accesses of a code unit portray its references because
references with the same key name the same types, which parsing sees to (`targetsAgree_of_parse`).
-/

set_option autoImplicit false

namespace TypeAtlas

open ClassFile (MemberReference constructorName)

namespace Graph

variable (g : Graph)

/-! ## Portraits -/

/-- An access does what a reference does, and aims at what it names. -/
structure PortraysReference (a : Access) (r : MemberReference) : Prop where
  line : a.line = r.line
  read : a.kind = .fieldRead ↔ r.kind = .getField ∨ r.kind = .getStatic
  write : a.kind = .fieldWrite ↔ r.kind = .putField ∨ r.kind = .putStatic
  construct : a.kind = .constructorCall ↔ r.kind = .invokeSpecial ∧ r.name = constructorName
  target : ∃ target, g.targets[a.target]? = some target ∧ target.name = r.name ∧
    target.descriptor = r.descriptor ∧ g.typeNames [target.owner] = [some r.owner] ∧
    g.typeNames target.parameters = r.parameterTypes.map some ∧
    g.typeNames [target.returnType] = [some r.valueType]

/-- A member is what a field says, with the type that its descriptor spells. -/
structure PortraysField (m : MemberNode) (f : FieldRecord) : Prop where
  kind : m.kind = .field
  name : m.name = f.name
  descriptor : m.descriptor = f.descriptor
  modifiers : m.modifiers = f.modifiers
  signature : m.signature = f.signature
  parameters : m.parameters = []
  throws : m.throws = []
  accesses : m.accesses = []
  type : ∃ type, FieldType.parse f.descriptor = .ok type ∧
    g.typeNames [m.returnType] = [some type.typeName]

/-- A member is what a code unit says, with the types that its descriptor spells and an access for
each reference. -/
structure PortraysCodeUnit (m : MemberNode) (u : CodeUnit) : Prop where
  kind : m.kind = MemberKind.ofCodeUnit u.kind
  name : m.name = u.name
  descriptor : m.descriptor = u.descriptor
  modifiers : m.modifiers = u.modifiers
  signature : m.signature = u.signature
  throws : g.typeNames m.throws = u.throws.map some
  types : ∃ type, MethodType.parse u.descriptor = .ok type ∧
    g.typeNames m.parameters = (type.params.map FieldType.typeName).map some ∧
    g.typeNames [m.returnType] = [some type.result.typeName]
  accesses : ∃ accesses : List Access, m.accesses.map (g.accesses[·]?) = accesses.map some ∧
    List.Forall₂ g.PortraysReference accesses u.references

/-- The name of the superclass that a class is given: the one it states, or else the root, below
which everything else is. -/
def superclassName (c : ClassRecord) : Option String :=
  c.superClass.or (if c.name = rootName then none else some rootName)

/-- A type is what a class says, its members the fields and then the code units of the class. -/
structure PortraysClass (node : TypeNode) (c : ClassRecord) : Prop where
  name : node.name = c.name
  superclass : g.typeNames node.supertype.toList = (superclassName c).toList.map some
  interfaces : g.typeNames node.interfaces = c.interfaces.map some
  enclosing : g.typeNames node.enclosingType.toList = c.enclosingClass.toList.map some
  members : ∃ fields units : List MemberNode,
    node.members.map (g.members[·]?) = (fields ++ units).map some ∧
    List.Forall₂ g.PortraysField fields c.fields ∧
    List.Forall₂ g.PortraysCodeUnit units c.codeUnits

/-- A graph holds what records say, and nothing else. -/
structure Portrays (classes : List ClassRecord) : Prop where
  imported : ∀ node ∈ g.types, node.fullyImported = true ↔ ∃ c ∈ classes, c.name = node.name
  classes : ∀ c ∈ classes, ∃ node, g.find? c.name = some node ∧ g.PortraysClass node c
  stubs : ∀ node ∈ g.types, node.fullyImported = false →
    node.members = [] ∧ node.interfaces = [] ∧ node.annotations = [] ∧ node.enclosingType = none

end Graph

/-! ## Lists that agree -/

theorem forall₂_of_map_eq {α β γ : Type} {f : α → γ} {k : β → γ} {R : α → β → Prop} {as : List α}
    {bs : List β} (h : as.map f = bs.map k)
    (hR : ∀ a ∈ as, ∀ b ∈ bs, f a = k b → R a b) : List.Forall₂ R as bs := by
  induction as generalizing bs with
  | nil =>
    cases bs with
    | nil => exact .nil
    | cons b bs => cases h
  | cons a as ih =>
    cases bs with
    | nil => cases h
    | cons b bs =>
      rw [List.map_cons, List.map_cons, List.cons.injEq] at h
      refine .cons (hR a List.mem_cons_self b List.mem_cons_self h.1) (ih h.2 ?_)
      intro a' ha' b' hb' hsame
      exact hR a' (List.mem_cons_of_mem a ha') b' (List.mem_cons_of_mem b hb') hsame

/-- The numbers of some nodes of an arena lead back to the nodes. -/
theorem map_getElem?_of_ids {α : Type} {id : α → Nat} {nodes own : List α} {total : Nat}
    (hids : nodes.map id = List.range' 0 total) (hown : ∀ node ∈ own, node ∈ nodes) :
    (own.map id).map (nodes.toArray[·]?) = own.map some := by
  rw [List.map_map]
  apply List.map_congr_left
  intro node hnode
  rw [Function.comp_apply, List.getElem?_toArray]
  exact getElem?_of_ids hids (hown node hnode)

namespace Graph

/-! ## Accesses -/

/-- The kind of access that a reference makes is that of its instruction. -/
theorem accessKind_cases (r : MemberReference) :
    (accessKind r = .fieldRead ↔ r.kind = .getField ∨ r.kind = .getStatic) ∧
    (accessKind r = .fieldWrite ↔ r.kind = .putField ∨ r.kind = .putStatic) ∧
    (accessKind r = .constructorCall ↔ r.kind = .invokeSpecial ∧ r.name = constructorName) := by
  unfold accessKind MemberReference.isConstructorCall
  by_cases hname : r.name = constructorName <;> cases r.kind <;>
    simp [ClassFile.ReferenceKind.isFieldAccess, ClassFile.ReferenceKind.isWrite, hname]

namespace Linkable

variable {table : NameTable} {classes : List ClassRecord} (L : Linkable table classes)
include L

/-- An access portrays the reference that it was made from. -/
theorem portraysReference (hagree : TargetsAgree classes) {r : MemberReference}
    (hr : r ∈ references classes) {a : Access} (hline : a.line = r.line)
    (hkind : a.kind = accessKind r)
    (htarget : a.target = Link.targetOf (targetKeys classes) r) :
    (build table classes).PortraysReference a r := by
  obtain ⟨hread, hwrite, hconstruct⟩ := accessKind_cases r
  obtain ⟨r', hr', hkey, hnode⟩ := exists_targets_build table hr
  obtain ⟨hparameters, hvalue⟩ := hagree r' hr' r hr hkey
  have howner : r'.owner = r.owner := congrArg TargetKey.owner hkey
  have hmentioned : ∀ name ∈ referenceMentions r, name ∈ table.names := fun name =>
    L.mem_of_reference hr
  refine ⟨hline, hkind ▸ hread, hkind ▸ hwrite, hkind ▸ hconstruct, _, htarget ▸ hnode, ?_⟩
  -- the target may come from an earlier reference, of which parsing made the same
  refine ⟨congrArg TargetKey.name hkey, congrArg TargetKey.descriptor hkey, ?_, ?_, ?_⟩
  · show (build table classes).typeNames [table.idOf r'.owner] = _
    rw [howner]
    exact typeNames_idOf (hmentioned _ List.mem_cons_self)
  · show (build table classes).typeNames (r'.parameterTypes.map table.idOf) = _
    rw [hparameters]
    apply typeNames_map_idOf
    intro name hname
    exact hmentioned _ (List.mem_cons_of_mem _ (List.mem_append_left _ hname))
  · show (build table classes).typeNames [table.idOf r'.valueType] = _
    rw [hvalue]
    apply typeNames_idOf
    exact hmentioned _ (List.mem_cons_of_mem _ (List.mem_append_right _ List.mem_cons_self))

/-! ## Members -/

section Members

variable {p : PlacedClass} (hp : p ∈ placeClasses {} classes) {m : PlacedMember}
  (hm : m ∈ p.members)
include hp hm

theorem mem_of_member {name : String} (h : name ∈ m.member.mentions) : name ∈ table.names :=
  L.mem_of_class (record_mem_of_placed hp)
    (ClassRecord.member_mem_mentions (member_mem_of_placed hp hm) h)

/-- The accesses of a member portray its references. -/
theorem portraysReferences (hagree : TargetsAgree classes) :
    ∃ accesses : List Access,
      (Link.memberNode table p.record m).accesses.map ((build table classes).accesses[·]?) =
        accesses.map some ∧
      List.Forall₂ (build table classes).PortraysReference accesses m.member.references := by
  refine ⟨Link.memberAccesses (targetKeys classes) m, ?_, ?_⟩
  · have hids := Link.map_id_memberAccesses (targetKeys classes) m
    show (List.range' m.start.accesses m.member.references.length).map _ = _
    rw [← hids, accesses_build]
    apply map_getElem?_of_ids (Link.map_id_allAccesses classes)
    intro a ha
    exact Link.mem_allAccesses.2 ⟨m, mem_placedMembers_of_mem hp hm, ha⟩
  · rw [Link.memberAccesses, List.forall₂_map_left_iff]
    apply forall₂_of_map_eq (f := Prod.snd) (k := id)
    · rw [map_snd_numbered, List.map_id]
    · rintro entry - r hr rfl
      have hmem := reference_mem_of_placed (mem_placedMembers_of_mem hp hm) hr
      exact L.portraysReference hagree hmem rfl rfl rfl

theorem portraysField {f : FieldRecord} (hf : m.member = f.declared)
    (htype : FieldType.parse f.descriptor = .ok f.type) :
    (build table classes).PortraysField (Link.memberNode table p.record m) f := by
  have hvalue : f.type.typeName ∈ table.names := by
    apply L.mem_of_member hp hm
    rw [hf]
    exact DeclaredMember.valueType_mem_mentions
  have hnames : (build table classes).typeNames [table.idOf f.type.typeName] =
      [some f.type.typeName] := typeNames_idOf hvalue
  unfold Link.memberNode
  rw [hf]
  exact
    { kind := rfl
      name := rfl
      descriptor := rfl
      modifiers := rfl
      signature := rfl
      parameters := rfl
      throws := rfl
      accesses := rfl
      type := ⟨f.type, htype, hnames⟩ }

theorem portraysCodeUnit (hagree : TargetsAgree classes) {u : CodeUnit}
    (hu : m.member = u.declared) (htype : MethodType.parse u.descriptor = .ok u.type) :
    (build table classes).PortraysCodeUnit (Link.memberNode table p.record m) u := by
  have hthrows : (build table classes).typeNames (u.throws.map table.idOf) =
      u.throws.map some := by
    apply typeNames_map_idOf
    intro name hname
    apply L.mem_of_member hp hm
    rw [hu]
    exact DeclaredMember.throws_mem_mentions hname
  have hparameters : (build table classes).typeNames
      ((u.type.params.map FieldType.typeName).map table.idOf) =
        (u.type.params.map FieldType.typeName).map some := by
    apply typeNames_map_idOf
    intro name hname
    apply L.mem_of_member hp hm
    rw [hu]
    exact DeclaredMember.parameterType_mem_mentions hname
  have hresult : u.type.result.typeName ∈ table.names := by
    apply L.mem_of_member hp hm
    rw [hu]
    exact DeclaredMember.valueType_mem_mentions
  have haccesses := L.portraysReferences hp hm hagree
  have hnames : (build table classes).typeNames [table.idOf u.type.result.typeName] =
      [some u.type.result.typeName] := typeNames_idOf hresult
  unfold Link.memberNode at haccesses ⊢
  rw [hu] at haccesses ⊢
  exact
    { kind := rfl
      name := rfl
      descriptor := rfl
      modifiers := rfl
      signature := rfl
      throws := hthrows
      types := ⟨u.type, htype, hparameters, hnames⟩
      accesses := haccesses }

end Members

/-! ## Classes -/

/-- The node of a class has the number of the superclass that the class is given. -/
theorem supertype_eq {p : PlacedClass} (hp : p ∈ placeClasses {} classes) :
    (Link.importedNode table (table.idOf p.record.name) p).supertype =
      (superclassName p.record).map table.idOf := by
  have hroot : table.idOf p.record.name = Link.root table ↔ p.record.name = rootName :=
    NameTable.idOf_inj (L.name_mem hp)
  simp only [Link.importedNode, superclassName]
  cases p.record.superClass with
  | some name => rfl
  | none =>
    show (if table.idOf p.record.name = Link.root table then none else some (Link.root table)) =
      (if p.record.name = rootName then none else some rootName).map table.idOf
    by_cases h : p.record.name = rootName
    · rw [if_pos h, if_pos (hroot.2 h), Option.map_none]
    · rw [if_neg h, if_neg fun heq => h (hroot.1 heq), Option.map_some]
      rfl

theorem superclassName_mem {c : ClassRecord} (hc : c ∈ classes) {name : String}
    (h : superclassName c = some name) : name ∈ table.names := by
  unfold superclassName at h
  cases hsuper : c.superClass with
  | some stated =>
    rw [hsuper] at h
    cases h
    exact L.mem_of_class hc (ClassRecord.superClass_mem_mentions hsuper)
  | none =>
    rw [hsuper, Option.none_or] at h
    split at h
    · cases h
    · cases h
      exact L.rootName_mem

omit L in
/-- A name that is there can be read back from its number. -/
theorem typeNames_toList {name? : Option String}
    (h : ∀ name, name? = some name → name ∈ table.names) :
    (build table classes).typeNames (name?.map table.idOf).toList = name?.toList.map some := by
  cases name? with
  | none => rfl
  | some name => exact typeNames_idOf (h name rfl)

/-- The node of a class portrays it. -/
theorem portraysClass (hagree : TargetsAgree classes) {p : PlacedClass}
    (hp : p ∈ placeClasses {} classes)
    (hfields : ∀ f ∈ p.record.fields, FieldType.parse f.descriptor = .ok f.type)
    (hunits : ∀ u ∈ p.record.codeUnits, MethodType.parse u.descriptor = .ok u.type)
    {subtypes : List TypeId} :
    (build table classes).PortraysClass
      { Link.importedNode table (table.idOf p.record.name) p with subtypes } p.record where
  name := rfl
  superclass := by
    show (build table classes).typeNames
      (Link.importedNode table (table.idOf p.record.name) p).supertype.toList = _
    rw [L.supertype_eq hp]
    exact typeNames_toList fun name => L.superclassName_mem (record_mem_of_placed hp)
  interfaces := typeNames_map_idOf fun name hname =>
    L.mem_of_class (record_mem_of_placed hp) (ClassRecord.interface_mem_mentions hname)
  enclosing := typeNames_toList fun name hname =>
    L.mem_of_class (record_mem_of_placed hp) (ClassRecord.enclosingClass_mem_mentions hname)
  members := by
    -- the placed members are the fields and then the code units
    obtain ⟨fields, units, hsplit, hfieldMembers, hunitMembers⟩ :=
      List.map_eq_append_iff.1 (map_member_of_placed hp)
    have hmem : ∀ m, m ∈ fields ∨ m ∈ units → m ∈ p.members := by
      intro m hm
      rw [hsplit]
      exact List.mem_append.2 hm
    refine ⟨fields.map (Link.memberNode table p.record), units.map (Link.memberNode table p.record),
      ?_, ?_, ?_⟩
    · show (p.members.map (·.start.members)).map _ = _
      rw [← Link.map_id_memberNodes table p, ← List.map_append, ← hsplit, members_build]
      apply map_getElem?_of_ids (Link.map_id_allMembers table classes)
      intro node hnode
      obtain ⟨m, hm, rfl⟩ := List.mem_map.1 hnode
      exact Link.memberNode_mem hp hm
    · rw [List.forall₂_map_left_iff]
      refine forall₂_of_map_eq hfieldMembers fun m hm f hf hsame => ?_
      exact L.portraysField hp (hmem m (Or.inl hm)) hsame (hfields f hf)
    · rw [List.forall₂_map_left_iff]
      refine forall₂_of_map_eq hunitMembers fun m hm u hu hsame => ?_
      exact L.portraysCodeUnit hp (hmem m (Or.inr hm)) hagree hsame (hunits u hu)

theorem portrays (hagree : TargetsAgree classes)
    (hfields : ∀ c ∈ classes, ∀ f ∈ c.fields, FieldType.parse f.descriptor = .ok f.type)
    (hunits : ∀ c ∈ classes, ∀ u ∈ c.codeUnits, MethodType.parse u.descriptor = .ok u.type) :
    (build table classes).Portrays classes where
  imported := by
    intro node hnode
    obtain ⟨i, hi⟩ := Array.getElem?_of_mem hnode
    rcases types_build_cases hi with ⟨p, hp, -, rfl⟩ | ⟨name, -, hnone, rfl⟩
    · exact ⟨fun _ => ⟨p.record, record_mem_of_placed hp, rfl⟩, fun _ => rfl⟩
    · constructor
      · intro himported
        cases himported
      · rintro ⟨c, hc, hname⟩
        exact absurd hname (hnone c hc)
  classes := by
    intro c hc
    rw [← map_record_placeClasses {} classes] at hc
    obtain ⟨p, hp, rfl⟩ := List.mem_map.1 hc
    have hrecord := record_mem_of_placed hp
    exact ⟨_, L.find?_placed hp, L.portraysClass hagree hp (hfields _ hrecord) (hunits _ hrecord)⟩
  stubs := by
    intro node hnode hstub
    obtain ⟨i, hi⟩ := Array.getElem?_of_mem hnode
    rcases types_build_cases hi with ⟨p, hp, -, rfl⟩ | ⟨name, -, -, rfl⟩
    · cases hstub
    · exact ⟨rfl, rfl, rfl, rfl⟩

end Linkable

/-- The graph of parsed classes holds what the classes that are kept say, and nothing else. -/
theorem portrays_of_link {names : List String} {policy : DuplicatePolicy}
    {classes : List ClassRecord} {g : Graph}
    (hlink : link (NameTable.ofList names) policy classes = .ok g)
    (hparsed : ∀ c ∈ classes, ∃ bytes, ClassRecord.parse bytes = .ok c) :
    ∃ kept, ClassRecord.dedupe policy classes = .ok kept ∧ g.Portrays kept := by
  obtain ⟨table, kept, hkept, rfl, L⟩ := linkable_of_link hlink
  have hparsed' : ∀ c ∈ kept, ∃ bytes, ClassRecord.parse bytes = .ok c := by
    intro c hc
    exact hparsed c (mem_of_mem_dedupe hkept c hc)
  exact ⟨kept, hkept, L.portrays (targetsAgree_of_parse hparsed') (fieldTypes_of_parse hparsed')
    (methodTypes_of_parse hparsed')⟩

/-! ### A class that reads its own field -/

open Assembly

/-- A class with a field, and a method that reads the field twice and then calls an interface. -/
def readingClass : ClassSpec :=
  ((ClassSpec.plain "a.B").implementing "a.I")
    |>.addField { name := "x", descriptor := "[I" }
    |>.addMethod (MethodSpec.withCode { name := "run", descriptor := "(J)V" }
      [.line 7, .getStatic ⟨"a.B", "x", "[I"⟩, .getStatic ⟨"a.B", "x", "[I"⟩,
        .invokeInterface ⟨"a.I", "go", "()V"⟩, .return])

/-- The two reads share a target, and each access portrays its reference all the same. -/
theorem portrays_readingClass :
    ∃ c g, ClassRecord.parse readingClass.assemble = .ok c ∧
      c.codeUnits.map (fun u => u.references.length) = [3] ∧
      link (NameTable.ofList ["a.X"]) .firstWins [c] = .ok g ∧ g.Portrays [c] := by
  obtain ⟨c, hc, hreferences⟩ : ∃ c, ClassRecord.parse readingClass.assemble = .ok c ∧
      c.codeUnits.map (fun u => u.references.length) = [3] :=
    exists_of_toOption_map (by decide +kernel)
  have hlink : link (NameTable.ofList ["a.X"]) .firstWins [c] =
      .ok (build ((NameTable.ofList ["a.X"]).insertAll (mentions [c])) [c]) := rfl
  have hparsed : ∀ d ∈ [c], ∃ bytes, ClassRecord.parse bytes = .ok d := by
    intro d hd
    rw [List.mem_singleton.1 hd]
    exact ⟨_, hc⟩
  obtain ⟨kept, hkept, hportrays⟩ := portrays_of_link hlink hparsed
  cases hkept
  exact ⟨c, _, hc, hreferences, hlink, hportrays⟩

end Graph

end TypeAtlas
