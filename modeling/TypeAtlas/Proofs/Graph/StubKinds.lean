import TypeAtlas.Proofs.Graph.AnnotationTrees
import TypeAtlas.Proofs.Graph.ReservedNames

/-!
# The kinds of types known by name only

The kind of a type without a declaration follows from its name and from how it is used: a type that
is no array and no primitive type is an interface if some class lists it among its interfaces or
some code calls it through an interface's method reference (`UsedAsInterface`), and else a class.

Uses can be noted as hints while the names are registered, in one pass over the classes
(`LinkState.gather`). The pass passes over a target that it has met before, but only after it has
noted whether the owner is called as an interface, so it ends with a hint for each name that is used
as one (`hinted_gather`), in whatever order the uses come.
-/

set_option autoImplicit false

namespace TypeAtlas

open ClassFile (MemberReference)

/-! ## Uses of names -/

/-- Some class lists a name among its interfaces, or some reference in a code unit of a class names
it as its owner through an interface's method reference. -/
inductive UsedAsInterface (classes : List ClassRecord) (name : String) : Prop
  | listed {c : ClassRecord} (hc : c ∈ classes) (h : name ∈ c.interfaces) :
    UsedAsInterface classes name
  | called {c : ClassRecord} {u : CodeUnit} {r : MemberReference} (hc : c ∈ classes)
    (hu : u ∈ c.codeUnits) (hr : r ∈ u.references) (howner : r.owner = name)
    (h : r.ownerIsInterface = true) : UsedAsInterface classes name

/-- The owner of a reference, if it is used as an interface. -/
def interfaceOwner (r : MemberReference) : List String :=
  if r.ownerIsInterface then [r.owner] else []

/-- The names that a member uses as interfaces. -/
def DeclaredMember.interfaceUses (m : DeclaredMember) : List String :=
  m.references.flatMap interfaceOwner

/-- The names that a class uses as interfaces. -/
def ClassRecord.interfaceUses (c : ClassRecord) : List String :=
  c.interfaces ++ c.declaredMembers.flatMap DeclaredMember.interfaceUses

section Uses

variable {classes : List ClassRecord} {name : String}

theorem mem_interfaceOwner {r : MemberReference} :
    name ∈ interfaceOwner r ↔ r.owner = name ∧ r.ownerIsInterface = true := by
  rw [interfaceOwner]
  cases r.ownerIsInterface with
  | false => simp only [Bool.false_eq_true, if_false, List.not_mem_nil, and_false]
  | true => simp only [if_true, List.mem_singleton, and_true, eq_comm]

/-- Only code units make references. -/
theorem mem_references_declared {c : ClassRecord} {r : MemberReference} :
    (∃ m ∈ c.declaredMembers, r ∈ m.references) ↔ ∃ u ∈ c.codeUnits, r ∈ u.references := by
  constructor
  · rintro ⟨m, hm, hr⟩
    rcases List.mem_append.1 hm with hm | hm
    · rcases List.mem_map.1 hm with ⟨f, -, rfl⟩
      exact absurd hr List.not_mem_nil
    · rcases List.mem_map.1 hm with ⟨u, hu, rfl⟩
      exact ⟨u, hu, hr⟩
  · rintro ⟨u, hu, hr⟩
    exact ⟨u.declared, List.mem_append_right _ (List.mem_map_of_mem hu), hr⟩

theorem mem_interfaceUses_iff :
    name ∈ classes.flatMap ClassRecord.interfaceUses ↔ UsedAsInterface classes name := by
  constructor
  · intro h
    rcases List.mem_flatMap.1 h with ⟨c, hc, h⟩
    rcases List.mem_append.1 h with h | h
    · exact .listed hc h
    · rcases List.mem_flatMap.1 h with ⟨m, hm, h⟩
      rcases List.mem_flatMap.1 h with ⟨r, hr, h⟩
      rcases mem_interfaceOwner.1 h with ⟨howner, hinterface⟩
      rcases mem_references_declared.1 ⟨m, hm, hr⟩ with ⟨u, hu, hr⟩
      exact .called hc hu hr howner hinterface
  · intro h
    apply List.mem_flatMap.2
    cases h with
    | listed hc h => exact ⟨_, hc, List.mem_append_left _ h⟩
    | called hc hu hr howner hinterface =>
      rcases mem_references_declared.2 ⟨_, hu, hr⟩ with ⟨m, hm, hr⟩
      refine ⟨_, hc, List.mem_append_right _ (List.mem_flatMap.2 ⟨m, hm, ?_⟩)⟩
      exact List.mem_flatMap.2 ⟨_, hr, mem_interfaceOwner.2 ⟨howner, hinterface⟩⟩

theorem mem_link_interfaceUses_iff :
    name ∈ Link.interfaceUses classes ↔ UsedAsInterface classes name := by
  rw [Link.interfaceUses, List.mem_append]
  constructor
  · rintro (h | h)
    · rcases List.mem_flatMap.1 h with ⟨c, hc, h⟩
      exact .listed hc h
    · rcases List.mem_map.1 h with ⟨r, hr, howner⟩
      rcases List.mem_filter.1 hr with ⟨hr, hinterface⟩
      rcases List.mem_flatMap.1 hr with ⟨c, hc, hr⟩
      rcases mem_references_declared.1 (List.mem_flatMap.1 hr) with ⟨u, hu, hr⟩
      exact .called hc hu hr howner hinterface
  · intro h
    cases h with
    | listed hc h => exact Or.inl (List.mem_flatMap.2 ⟨_, hc, h⟩)
    | called hc hu hr howner hinterface =>
      refine Or.inr (List.mem_map.2 ⟨_, List.mem_filter.2 ⟨?_, hinterface⟩, howner⟩)
      exact List.mem_flatMap.2
        ⟨_, hc, List.mem_flatMap.2 (mem_references_declared.2 ⟨_, hu, hr⟩)⟩

/-- How a name is used does not depend on the order of the classes. -/
theorem usedAsInterface_congr {classes' : List ClassRecord}
    (h : ∀ c, c ∈ classes' ↔ c ∈ classes) :
    UsedAsInterface classes' name ↔ UsedAsInterface classes name := by
  simp only [← mem_interfaceUses_iff, List.mem_flatMap, h]

end Uses

/-! ## Kinds -/

theorem Text.componentOf_isSome_iff {name : String} :
    (Text.componentOf name).isSome = true ↔ ∃ component, name = Text.arrayOf component := by
  constructor
  · intro h
    rcases Option.isSome_iff_exists.1 h with ⟨component, hcomponent⟩
    exact ⟨component, Text.eq_arrayOf_of_componentOf hcomponent⟩
  · rintro ⟨component, rfl⟩
    rw [Text.componentOf_arrayOf]
    rfl

/-- The kind of a type that is known by name only: an array type by its name, or else a primitive
type by its name, or else an interface if it is used as one, and a class if it is not. -/
structure IsStubKind (classes : List ClassRecord) (name : String) (kind : TypeKind) : Prop where
  array : kind = .array ↔ ∃ component, name = Text.arrayOf component
  primitive : kind = .primitive ↔
    (¬ ∃ component, name = Text.arrayOf component) ∧ name ∈ Text.primitiveWords
  interface : kind = .interface ↔
    (¬ ∃ component, name = Text.arrayOf component) ∧ name ∉ Text.primitiveWords ∧
      UsedAsInterface classes name
  plain : kind = .plain ↔
    (¬ ∃ component, name = Text.arrayOf component) ∧ name ∉ Text.primitiveWords ∧
      ¬ UsedAsInterface classes name

section Kinds

variable {classes : List ClassRecord} {name : String}

/-- Any way to decide which names are used as interfaces gives a name its kind. -/
theorem isStubKind_ite {used : Bool} (hused : used = true ↔ UsedAsInterface classes name) :
    IsStubKind classes name
      (if (Text.componentOf name).isSome then .array
      else if Text.primitiveWords.contains name then .primitive
      else if used then .interface
      else .plain) := by
  by_cases hcomponent : (Text.componentOf name).isSome = true
  · have harray := Text.componentOf_isSome_iff.1 hcomponent
    rw [if_pos hcomponent]
    constructor <;> simp [harray]
  · have harray := mt Text.componentOf_isSome_iff.2 hcomponent
    rw [if_neg hcomponent]
    by_cases hword : name ∈ Text.primitiveWords
    · rw [if_pos (List.contains_iff_mem.2 hword)]
      constructor <;> simp [harray, hword]
    · rw [if_neg (mt List.contains_iff_mem.1 hword)]
      by_cases huse : UsedAsInterface classes name
      · rw [if_pos (hused.2 huse)]
        constructor <;> simp [harray, hword, huse]
      · rw [if_neg (mt hused.1 huse)]
        constructor <;> simp [harray, hword, huse]

theorem isStubKind_stubKind (classes : List ClassRecord) (name : String) :
    IsStubKind classes name (Link.stubKind (Link.interfaceUses classes) name) := by
  apply isStubKind_ite
  rw [List.contains_iff_mem]
  exact mem_link_interfaceUses_iff

/-- A name has one kind. -/
theorem IsStubKind.unique {kind kind' : TypeKind} (h : IsStubKind classes name kind)
    (h' : IsStubKind classes name kind') : kind = kind' := by
  by_cases harray : ∃ component, name = Text.arrayOf component
  · rw [h.array.2 harray, h'.array.2 harray]
  · by_cases hword : name ∈ Text.primitiveWords
    · rw [h.primitive.2 ⟨harray, hword⟩, h'.primitive.2 ⟨harray, hword⟩]
    · by_cases hused : UsedAsInterface classes name
      · rw [h.interface.2 ⟨harray, hword, hused⟩, h'.interface.2 ⟨harray, hword, hused⟩]
      · rw [h.plain.2 ⟨harray, hword, hused⟩, h'.plain.2 ⟨harray, hword, hused⟩]

/-- The kind of a name does not depend on the order of the classes. -/
theorem IsStubKind.congr {classes' : List ClassRecord} {kind : TypeKind}
    (hsame : ∀ c, c ∈ classes' ↔ c ∈ classes) (h : IsStubKind classes' name kind) :
    IsStubKind classes name kind := by
  have hused : UsedAsInterface classes' name ↔ UsedAsInterface classes name :=
    usedAsInterface_congr hsame
  constructor
  · exact h.array
  · exact h.primitive
  · rw [← hused]
    exact h.interface
  · rw [← hused]
    exact h.plain

end Kinds

/-! ## Gathering hints -/

/-- What linking knows on its way through the classes: the names registered so far, the numbers of
those that are used as interfaces, and the keys of the targets met so far, with the owner by its
number. -/
structure LinkState where
  table : NameTable
  hints : List TypeId := []
  targets : List (TargetKind × TypeId × String × String) := []

namespace LinkState

/-- Registers the names in a reference. The owner is registered and noted in any case; the types are
registered for the first reference to a target only. -/
def enterReference (s : LinkState) (r : MemberReference) : LinkState :=
  let (owner, table) := s.table.refer r.owner
  let hints := if r.ownerIsInterface then owner :: s.hints else s.hints
  let key := (targetKind r, owner, r.name, r.descriptor)
  if key ∈ s.targets then { s with table, hints }
  else
    let table := (table.referAll r.parameterTypes).2
    let table := (table.refer r.valueType).2
    ⟨table, hints, key :: s.targets⟩

/-- Registers the types in annotations. -/
def enterAnnotations (table : NameTable) (annotations : List (AnnotationTree String)) : NameTable :=
  annotations.foldl (fun table a => (table.linkTree a).2) table

/-- Registers the names in a member, and goes through its references. -/
def enterMember (s : LinkState) (m : DeclaredMember) : LinkState :=
  let table := (s.table.referAll m.parameterTypes).2
  let table := (table.refer m.valueType).2
  let table := (table.referAll m.throws).2
  let table := enterAnnotations table m.annotations
  m.references.foldl enterReference { s with table }

/-- Registers the names in a class, notes its interfaces, and goes through its members. -/
def enterClass (s : LinkState) (c : ClassRecord) : LinkState :=
  let table := (s.table.refer c.name).2
  let table := (table.referAll c.superClass.toList).2
  let (interfaces, table) := table.referAll c.interfaces
  let table := (table.referAll c.enclosingClass.toList).2
  let table := enterAnnotations table c.annotations
  c.declaredMembers.foldl enterMember { s with table, hints := interfaces ++ s.hints }

/-- Goes through all classes, after the root and the names of the classes are registered. -/
def gather (table : NameTable) (classes : List ClassRecord) : LinkState :=
  let table := (table.refer rootName).2
  let table := (table.referAll (classes.map (·.name))).2
  classes.foldl enterClass { table }

/-- The kind of a type known by name only, by the hints. -/
def stubKind (s : LinkState) (id : TypeId) (name : String) : TypeKind :=
  if (Text.componentOf name).isSome then .array
  else if Text.primitiveWords.contains name then .primitive
  else if s.hints.contains id then .interface
  else .plain

/-- If each step adds what its entry adds, all steps add what all entries add. -/
theorem foldl_adds {α β : Type} {P : LinkState → List β → Prop} {step : LinkState → α → LinkState}
    {added : α → List β} {list : List α}
    (hstep : ∀ a ∈ list, ∀ s done, P s done → P (step s a) (done ++ added a))
    {s : LinkState} {done : List β} (h : P s done) :
    P (list.foldl step s) (done ++ list.flatMap added) := by
  induction list generalizing s done with
  | nil =>
    rw [List.flatMap_nil, List.append_nil]
    exact h
  | cons a rest ih =>
    rw [List.flatMap_cons, ← List.append_assoc]
    exact ih (fun b hb => hstep b (List.mem_cons_of_mem a hb))
      (hstep a List.mem_cons_self s done h)

/-! ### Hints -/

/-- The hints are the numbers of the names of a list, all of which are registered. -/
structure Hinted (s : LinkState) (uses : List String) : Prop where
  registered : ∀ name ∈ uses, name ∈ s.table.names
  hints : ∀ id, id ∈ s.hints ↔ ∃ name ∈ uses, s.table.idOf name = id

section Hinted

variable {s : LinkState} {uses : List String}

/-- A name is hinted exactly if it is among the uses. -/
theorem Hinted.mem_hints_iff (h : Hinted s uses) {name : String} :
    s.table.idOf name ∈ s.hints ↔ name ∈ uses := by
  rw [h.hints]
  constructor
  · rintro ⟨other, hother, hid⟩
    rw [(NameTable.idOf_inj (h.registered other hother)).1 hid] at hother
    exact hother
  · intro hname
    exact ⟨name, hname, rfl⟩

/-- Hints stay valid while names are registered. -/
theorem Hinted.grow (h : Hinted s uses) {table : NameTable}
    {targets : List (TargetKind × TypeId × String × String)}
    (hgrow : s.table.names <+: table.names) : Hinted ⟨table, s.hints, targets⟩ uses where
  registered name hname := hgrow.subset (h.registered name hname)
  hints id := by
    rw [h.hints]
    have hsame : ∀ name ∈ uses, table.idOf name = s.table.idOf name := fun name hname =>
      NameTable.idOf_of_isPrefix hgrow (h.registered name hname)
    constructor
    · rintro ⟨name, hname, hid⟩
      exact ⟨name, hname, (hsame name hname).trans hid⟩
    · rintro ⟨name, hname, hid⟩
      exact ⟨name, hname, (hsame name hname).symm.trans hid⟩

/-- Registered names may be hinted. -/
theorem Hinted.hint (h : Hinted s uses) {more : List String}
    (hmore : ∀ name ∈ more, name ∈ s.table.names) :
    Hinted { s with hints := more.map s.table.idOf ++ s.hints } (uses ++ more) where
  registered name hname := by
    rcases List.mem_append.1 hname with hname | hname
    · exact h.registered name hname
    · exact hmore name hname
  hints id := by
    simp only [List.mem_append, List.mem_map, h.hints, or_and_right, exists_or]
    exact or_comm

/-- A reference adds its owner, if it is called as an interface: also if its target has been met. -/
theorem Hinted.enterReference (h : Hinted s uses) (r : MemberReference) :
    Hinted (s.enterReference r) (uses ++ interfaceOwner r) := by
  have howner : r.owner ∈ (s.table.entered [r.owner]).names :=
    s.table.mem_entered (List.mem_singleton_self _)
  -- the state after the owner is registered and noted
  have hnoted : Hinted ⟨s.table.entered [r.owner],
      if r.ownerIsInterface then (s.table.entered [r.owner]).idOf r.owner :: s.hints else s.hints,
      s.targets⟩ (uses ++ interfaceOwner r) := by
    have hgrown : Hinted ⟨s.table.entered [r.owner], s.hints, s.targets⟩ uses :=
      h.grow (s.table.isPrefix_entered _)
    rw [interfaceOwner]
    cases r.ownerIsInterface with
    | false =>
      simp only [Bool.false_eq_true, if_false, List.append_nil]
      exact hgrown
    | true =>
      simp only [if_true]
      exact hgrown.hint (List.forall_mem_singleton.2 howner)
  simp only [LinkState.enterReference, NameTable.refer_eq, NameTable.referAll_eq,
    NameTable.entered_entered]
  split
  · exact hnoted
  · rw [← NameTable.entered_entered, ← NameTable.entered_entered]
    refine hnoted.grow ?_
    exact (NameTable.isPrefix_entered _ _).trans (NameTable.isPrefix_entered _ _)

theorem enterAnnotations_eq (table : NameTable) (annotations : List (AnnotationTree String)) :
    enterAnnotations table annotations =
      table.entered (annotations.flatMap AnnotationTree.types) := by
  rw [enterAnnotations]
  induction annotations generalizing table with
  | nil => rfl
  | cons a rest ih =>
    rw [List.foldl_cons, NameTable.linkTree_eq, ih, NameTable.entered_entered,
      List.flatMap_cons]

theorem Hinted.enterMember (h : Hinted s uses) (m : DeclaredMember) :
    Hinted (s.enterMember m) (uses ++ m.interfaceUses) := by
  simp only [LinkState.enterMember, NameTable.refer_eq, NameTable.referAll_eq, enterAnnotations_eq,
    NameTable.entered_entered]
  exact foldl_adds (P := Hinted) (fun r _ _ _ h => h.enterReference r)
    (h.grow (NameTable.isPrefix_entered _ _))

theorem Hinted.enterClass (h : Hinted s uses) (c : ClassRecord) :
    Hinted (s.enterClass c) (uses ++ c.interfaceUses) := by
  simp only [LinkState.enterClass, NameTable.refer_eq, NameTable.referAll_eq, enterAnnotations_eq,
    NameTable.entered_entered]
  rw [ClassRecord.interfaceUses, ← List.append_assoc]
  apply foldl_adds (P := Hinted) fun m _ _ _ h => h.enterMember m
  -- the state after the interfaces are registered and noted
  have hgrown : Hinted
      ⟨s.table.entered ([c.name] ++ c.superClass.toList ++ c.interfaces), s.hints, s.targets⟩ uses :=
    h.grow (s.table.isPrefix_entered _)
  have hnoted := hgrown.hint fun name hname => s.table.mem_entered (List.mem_append_right _ hname)
  rw [← NameTable.entered_entered, ← NameTable.entered_entered]
  exact hnoted.grow ((NameTable.isPrefix_entered _ _).trans (NameTable.isPrefix_entered _ _))

/-- In the end the hints are the numbers of the names that are used as interfaces. -/
theorem hinted_gather (table : NameTable) (classes : List ClassRecord) :
    Hinted (gather table classes) (classes.flatMap ClassRecord.interfaceUses) := by
  have hstart : Hinted { table := (((table.refer rootName).2).referAll (classes.map (·.name))).2 }
      [] := ⟨nofun, fun id => ⟨nofun, nofun⟩⟩
  exact foldl_adds (P := Hinted) (fun c _ _ _ h => h.enterClass c) hstart

end Hinted

/-! ### Numbers -/

/-- The table is the one in which a list of names is registered, and the targets met so far are
those of references that name no others. -/
structure Follows (all : List MemberReference) (table : NameTable) (s : LinkState)
    (names : List String) : Prop where
  table_eq : s.table = table.entered names
  targets : ∀ key ∈ s.targets, ∃ r ∈ all, (∀ name ∈ referenceMentions r, name ∈ names) ∧
    key = (targetKind r, s.table.idOf r.owner, r.name, r.descriptor)

section Follows

variable {all : List MemberReference} {table : NameTable} {s : LinkState} {names : List String}

theorem owner_mem_referenceMentions (r : MemberReference) : r.owner ∈ referenceMentions r :=
  List.mem_cons_self

theorem Follows.grow (h : Follows all table s names) (more : List String) (hints : List TypeId) :
    Follows all table ⟨s.table.entered more, hints, s.targets⟩ (names ++ more) where
  table_eq := by
    show s.table.entered more = _
    rw [h.table_eq, NameTable.entered_entered]
  targets key hkey := by
    rcases h.targets key hkey with ⟨r, hr, hnames, rfl⟩
    refine ⟨r, hr, fun name hname => List.mem_append_left _ (hnames name hname), ?_⟩
    have howner : r.owner ∈ s.table.names := by
      rw [h.table_eq]
      exact table.mem_entered (hnames _ (owner_mem_referenceMentions r))
    have hid : (s.table.entered more).idOf r.owner = s.table.idOf r.owner :=
      NameTable.idOf_of_isPrefix (s.table.isPrefix_entered more) howner
    simp only [hid]

variable (hagree : ∀ r ∈ all, ∀ r' ∈ all, targetKey r = targetKey r' →
  r.parameterTypes = r'.parameterTypes ∧ r.valueType = r'.valueType)
include hagree

/-- A reference with the key of a target that has been met names the types that are registered for
it. -/
theorem Follows.types_registered (h : Follows all table s names) {r : MemberReference}
    (hr : r ∈ all) (howner : r.owner ∈ names)
    (hmet : (targetKind r, s.table.idOf r.owner, r.name, r.descriptor) ∈ s.targets) :
    ∀ name ∈ r.parameterTypes ++ [r.valueType], name ∈ names := by
  rcases h.targets _ hmet with ⟨earlier, hearlier, hnames, hkey⟩
  simp only [Prod.mk.injEq] at hkey
  rcases hkey with ⟨hkind, hid, hname, hdescriptor⟩
  have hregistered : r.owner ∈ s.table.names := by
    rw [h.table_eq]
    exact table.mem_entered howner
  have hsame : targetKey r = targetKey earlier := by
    simp only [targetKey, hkind, (NameTable.idOf_inj hregistered).1 hid, hname, hdescriptor]
  rcases hagree r hr earlier hearlier hsame with ⟨hparameters, hvalue⟩
  intro name hmem
  rw [hparameters, hvalue] at hmem
  exact hnames name (List.mem_cons_of_mem _ hmem)

/-- A reference registers what it names, also if its target has been met: then the types are
registered already. -/
theorem Follows.enterReference (h : Follows all table s names) {r : MemberReference}
    (hr : r ∈ all) : Follows all table (s.enterReference r) (names ++ referenceMentions r) := by
  have hsplit : names ++ referenceMentions r =
      (names ++ [r.owner]) ++ (r.parameterTypes ++ [r.valueType]) := by
    rw [List.append_assoc]
    rfl
  have howner := h.grow [r.owner]
  simp only [LinkState.enterReference, NameTable.refer_eq, NameTable.referAll_eq]
  rw [hsplit]
  split
  · rename_i hmet
    generalize (if r.ownerIsInterface = true then _ else s.hints) = hints
    have hknown := (howner hints).types_registered hagree hr
      (List.mem_append_right names (List.mem_singleton_self _)) hmet
    refine ⟨?_, fun key hkey => ?_⟩
    · rw [NameTable.entered_append_of_subset table hknown]
      exact (howner hints).table_eq
    · rcases (howner hints).targets key hkey with ⟨earlier, hearlier, hnames, hkey⟩
      exact ⟨earlier, hearlier, fun name hname => List.mem_append_left _ (hnames name hname), hkey⟩
  · generalize (if r.ownerIsInterface = true then _ else s.hints) = hints
    have hgrown := (howner hints).grow (r.parameterTypes ++ [r.valueType]) hints
    rw [NameTable.entered_entered]
    refine ⟨hgrown.table_eq, fun key hkey => ?_⟩
    rcases List.mem_cons.1 hkey with rfl | hkey
    · -- the new target is that of the reference itself
      refine ⟨r, hr, fun name hname => ?_, ?_⟩
      · rw [← hsplit]
        exact List.mem_append_right names hname
      · have hid := NameTable.idOf_of_isPrefix
          ((s.table.entered [r.owner]).isPrefix_entered (r.parameterTypes ++ [r.valueType]))
          (s.table.mem_entered (List.mem_singleton_self r.owner))
        simp only [← hid]
    · exact hgrown.targets key hkey

theorem Follows.enterMember (h : Follows all table s names) {m : DeclaredMember}
    (hm : ∀ r ∈ m.references, r ∈ all) :
    Follows all table (s.enterMember m) (names ++ m.mentions) := by
  simp only [LinkState.enterMember, NameTable.refer_eq, NameTable.referAll_eq, enterAnnotations_eq,
    NameTable.entered_entered]
  rw [DeclaredMember.mentions, ← List.append_assoc]
  apply foldl_adds (P := Follows all table)
  · intro r hr s names h
    exact h.enterReference hagree (hm r hr)
  · have hgrown := h.grow (m.parameterTypes ++ m.valueType :: m.throws ++
      m.annotations.flatMap AnnotationTree.types) s.hints
    simpa only [List.append_assoc, List.singleton_append, List.cons_append, List.nil_append]
      using hgrown

theorem Follows.enterClass (h : Follows all table s names) {c : ClassRecord}
    (hc : ∀ m ∈ c.declaredMembers, ∀ r ∈ m.references, r ∈ all) :
    Follows all table (s.enterClass c) (names ++ c.mentions) := by
  simp only [LinkState.enterClass, NameTable.refer_eq, NameTable.referAll_eq, enterAnnotations_eq,
    NameTable.entered_entered]
  rw [ClassRecord.mentions, ← List.append_assoc]
  apply foldl_adds (P := Follows all table)
  · intro m hm s names h
    exact h.enterMember hagree (hc m hm)
  · have hgrown := h.grow (c.name :: c.superClass.toList ++ c.interfaces ++
      c.enclosingClass.toList ++ c.annotations.flatMap AnnotationTree.types)
    simpa only [List.append_assoc, List.singleton_append, List.cons_append, List.nil_append]
      using hgrown _

end Follows

/-- If references to the same target name the same types, the pass registers the names in the order
in which they are mentioned. -/
theorem table_gather (table : NameTable) {classes : List ClassRecord}
    (hagree : TargetsAgree classes) :
    (gather table classes).table = table.insertAll (mentions classes) := by
  have hstart : Follows (references classes) table
      { table := table.entered (rootName :: classes.map (·.name)) }
      (rootName :: classes.map (·.name)) := ⟨rfl, nofun⟩
  have hfollows : Follows (references classes) table (gather table classes)
      (rootName :: classes.map (·.name) ++ classes.flatMap ClassRecord.mentions) := by
    simp only [gather, NameTable.refer_eq, NameTable.referAll_eq, NameTable.entered_entered,
      List.singleton_append]
    apply foldl_adds (P := Follows (references classes) table)
    · intro c hc s names h
      refine h.enterClass hagree fun m hm r hr => ?_
      exact List.mem_flatMap.2 ⟨c, hc, List.mem_flatMap.2 ⟨m, hm, hr⟩⟩
    · exact hstart
  exact hfollows.table_eq

end LinkState

namespace Graph

/-! ## Linked graphs -/

/-- A type of a graph that is known by name only. -/
structure Stub (g : Graph) (node : TypeNode) : Prop where
  mem : node ∈ g.types
  nameOnly : node.fullyImported = false

/-- The kinds of the types known by name only follow from how the linked classes use them. The hints
of one pass over the classes give the same kinds, with the same numbers if references to the same
target name the same types; and another graph of the same classes gives them too. -/
structure KindsFollowUse (g : Graph) (table : NameTable) (classes : List ClassRecord) : Prop where
  kinds : ∀ node, g.Stub node → IsStubKind classes node.name node.kind
  hinted : ∀ node, g.Stub node → node.kind = (LinkState.gather table classes).stubKind
    ((LinkState.gather table classes).table.idOf node.name) node.name
  numbered : TargetsAgree classes → (LinkState.gather table classes).table = g.names
  unordered : ∀ names policy others kept (g' : Graph),
    link (NameTable.ofList names) policy others = .ok g' →
    ClassRecord.dedupe policy others = .ok kept → (∀ c, c ∈ kept ↔ c ∈ classes) →
    ∀ node node', g.Stub node → g'.Stub node' → node'.name = node.name → node'.kind = node.kind

section Build

variable {table : NameTable} {classes : List ClassRecord} {node : TypeNode}

theorem kind_of_stub (h : (build table classes).Stub node) :
    node.kind = Link.stubKind (Link.interfaceUses classes) node.name := by
  rcases Array.mem_iff_getElem?.1 h.mem with ⟨i, hi⟩
  rcases types_build_cases hi with ⟨p, -, -, hnode⟩ | ⟨name, -, -, hnode⟩
  · have himported : node.fullyImported = true := by rw [hnode]; rfl
    rw [h.nameOnly] at himported
    cases himported
  · rw [hnode]
    rfl

theorem isStubKind_of_stub (h : (build table classes).Stub node) :
    IsStubKind classes node.name node.kind := by
  rw [kind_of_stub h]
  exact isStubKind_stubKind classes node.name

end Build

/-- A name has the kind that the hints give it. -/
theorem isStubKind_gather (table : NameTable) (classes : List ClassRecord) (name : String) :
    IsStubKind classes name ((LinkState.gather table classes).stubKind
      ((LinkState.gather table classes).table.idOf name) name) := by
  apply isStubKind_ite
  rw [List.contains_iff_mem, (LinkState.hinted_gather table classes).mem_hints_iff]
  exact mem_interfaceUses_iff

/-- The kinds of types known by name only follow from use. -/
theorem kindsFollowUse_of_link {g : Graph} {names : List String} {policy : DuplicatePolicy}
    {classes : List ClassRecord} (h : link (NameTable.ofList names) policy classes = .ok g) :
    ∃ kept, ClassRecord.dedupe policy classes = .ok kept ∧
      g.KindsFollowUse (NameTable.ofList names) kept := by
  rcases link_eq_ok_iff.1 h with ⟨kept, hkept, rfl⟩
  refine ⟨kept, hkept, ?_⟩
  constructor
  · exact fun node => isStubKind_of_stub
  · intro node hnode
    exact (isStubKind_of_stub hnode).unique (isStubKind_gather _ kept node.name)
  · exact LinkState.table_gather (NameTable.ofList names)
  · intro names' policy' others kept' g' hlink hkept' hsame node node' hnode hnode' hname
    rcases link_eq_ok_iff.1 hlink with ⟨linked, hlinked, rfl⟩
    rw [hkept'] at hlinked
    cases hlinked
    have hkind := (isStubKind_of_stub hnode').congr hsame
    rw [hname] at hkind
    exact hkind.unique (isStubKind_of_stub hnode)

/-- A class whose method calls `C.m()` as a method of a class and then as one of an interface. -/
def mixedCaller : ClassRecord :=
  let unit := { callingMethod with
    references := [⟨.invokeStatic, "C", false, "m", "()V", [], "void", 0, 0⟩,
      ⟨.invokeStatic, "C", true, "m", "()V", [], "void", 3, 0⟩] }
  plainRecord .plain "D" [] [unit]

/-- The names that the class mentions. -/
def mixedNames : NameTable := ⟨["java.lang.Object", "D", "void", "C"]⟩

theorem link_mixedCaller :
    link (NameTable.ofList []) .fail [mixedCaller] = .ok (build mixedNames [mixedCaller]) := by
  have hmentions : mentions [mixedCaller] =
      ["java.lang.Object", "D", "D", "java.lang.Object", "void", "C", "void", "C", "void"] := by
    cbv
  exact link_of_mentions (by decide) hmentions rfl

/-- The second call makes `C` an interface, although it aims at the same target as the first. -/
theorem kindsFollowUse_mixedCaller :
    link (NameTable.ofList []) .fail [mixedCaller] = .ok (build mixedNames [mixedCaller]) ∧
      (build mixedNames [mixedCaller]).targets.size = 1 ∧
      ∃ node, (build mixedNames [mixedCaller]).Stub node ∧ node.name = "C" ∧
        node.kind = .interface := by
  rcases kindsFollowUse_of_link link_mixedCaller with ⟨kept, hkept, hkinds⟩
  have hall : ClassRecord.dedupe .fail [mixedCaller] = .ok [mixedCaller] :=
    dedupe_of_nodup (by decide)
  rw [hall] at hkept
  cases hkept
  have hfacts : (build mixedNames [mixedCaller]).types[3]?.map (fun node =>
      (node.name, node.fullyImported)) = some ("C", false) := by
    decide +kernel
  rcases Option.map_eq_some_iff.1 hfacts with ⟨node, hnode, hfacts⟩
  simp only [Prod.mk.injEq] at hfacts
  rcases hfacts with ⟨hname, hnameOnly⟩
  have hstub : (build mixedNames [mixedCaller]).Stub node :=
    ⟨Array.mem_iff_getElem?.2 ⟨3, hnode⟩, hnameOnly⟩
  have hused : UsedAsInterface [mixedCaller] "C" :=
    .called (List.mem_singleton_self _) (List.mem_singleton_self _)
      (List.mem_cons_of_mem _ (List.mem_singleton_self _)) rfl rfl
  have harray : ¬ ∃ component, "C" = Text.arrayOf component := by
    rw [← Text.componentOf_isSome_iff]
    decide
  refine ⟨link_mixedCaller, rfl, node, hstub, hname, ?_⟩
  have hkind := hkinds.kinds node hstub
  rw [hname] at hkind
  exact hkind.interface.2 ⟨harray, by decide, hused⟩

end Graph

end TypeAtlas
