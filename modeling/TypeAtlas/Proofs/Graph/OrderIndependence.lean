import TypeAtlas.Assembly.Assemble
import TypeAtlas.Proofs.ClassFile.TypedReference
import TypeAtlas.Proofs.Graph.RenamedDependencies
import TypeAtlas.Proofs.Graph.Reordered

/-!
# The order of linking does not matter

Parsed classes of different names can be linked in any order, and their names can be numbered
beforehand in any order: the graphs are the same up to a renaming and answer alike
(`link_reordered`). Of the classes it matters that they were parsed only because references with
the same key then name the same types (`targetsAgree_of_parse`).
-/

set_option autoImplicit false

namespace TypeAtlas

open ClassFile (MemberRefKind MemberReference signatureTypes)

/-! ## Parsed classes -/

/-- Of the kind of a reference constant, only whether it is a field's decides what types it
names. -/
theorem signatureTypes_congr {kind kind' : MemberRefKind} {descriptor : String}
    (h : (kind == .field) = (kind' == .field)) :
    signatureTypes kind descriptor = signatureTypes kind' descriptor := by
  cases kind <;> cases kind' <;> first
    | rfl
    | cases h

theorem isFieldAccess_of_targetKey {r r' : MemberReference} (h : targetKey r = targetKey r') :
    r.kind.isFieldAccess = r'.kind.isFieldAccess := by
  have hkind : targetKind r = targetKind r' := congrArg TargetKey.kind h
  have hfield : ∀ r : MemberReference, targetKind r = .field ↔ r.kind.isFieldAccess = true := by
    intro r
    unfold targetKind
    cases r.kind.isFieldAccess <;> cases r.isConstructorCall <;> decide
  rw [Bool.eq_iff_iff, ← hfield, ← hfield, hkind]

section Parsed

variable {classes : List ClassRecord}
  (hparsed : ∀ c ∈ classes, ∃ bytes, ClassRecord.parse bytes = .ok c)
include hparsed

/-- Parsing takes the types of fields, code units and references from their descriptors. -/
theorem fieldTypes_of_parse :
    ∀ c ∈ classes, ∀ f ∈ c.fields, FieldType.parse f.descriptor = .ok f.type := by
  intro c hc
  obtain ⟨bytes, hbytes⟩ := hparsed c hc
  exact fieldType_of_parse hbytes

theorem methodTypes_of_parse :
    ∀ c ∈ classes, ∀ u ∈ c.codeUnits, MethodType.parse u.descriptor = .ok u.type := by
  intro c hc
  obtain ⟨bytes, hbytes⟩ := hparsed c hc
  exact methodType_of_parse hbytes

theorem typed_references_of_parse : ∀ r ∈ references classes, r.Typed := by
  intro r hr
  obtain ⟨c, hc, hr⟩ := List.mem_flatMap.1 hr
  obtain ⟨m, hm, hr⟩ := List.mem_flatMap.1 hr
  obtain ⟨bytes, hbytes⟩ := hparsed c hc
  rcases List.mem_append.1 hm with hm | hm
  -- fields make no references
  · obtain ⟨f, -, rfl⟩ := List.mem_map.1 hm
    exact absurd hr List.not_mem_nil
  · obtain ⟨u, hu, rfl⟩ := List.mem_map.1 hm
    exact typed_of_parse hbytes u hu r hr

end Parsed

/-- References of parsed classes that aim at the same target name the same types. -/
theorem targetsAgree_of_parse {classes : List ClassRecord}
    (hparsed : ∀ c ∈ classes, ∃ bytes, ClassRecord.parse bytes = .ok c) : TargetsAgree classes := by
  -- the types of a reference are those in its descriptor, which the key holds
  have htyped := typed_references_of_parse hparsed
  intro r hr r' hr' hkey
  obtain ⟨kind, hkind, hsignature⟩ := htyped r hr
  obtain ⟨kind', hkind', hsignature'⟩ := htyped r' hr'
  have hdescriptor : r.descriptor = r'.descriptor := congrArg TargetKey.descriptor hkey
  have hsame : (kind == .field) = (kind' == .field) := by
    rw [hkind, hkind', isFieldAccess_of_targetKey hkey]
  rw [signatureTypes_congr hsame, hdescriptor, hsignature', Except.ok.injEq,
    Prod.mk.injEq] at hsignature
  exact ⟨hsignature.1.symm, hsignature.2.symm⟩

/-! ## Linking reordered classes -/

theorem mentions_perm {classes classes' : List ClassRecord} (hperm : classes.Perm classes') :
    (mentions classes).Perm (mentions classes') := by
  refine List.Perm.flatMap_right _ (List.Perm.append ?_ (hperm.flatMap_right _))
  exact (hperm.map _).cons rootName

/-- Tables of the same names, extended by what reordered classes mention, number the same names. -/
theorem insertAll_perm {names names' : List String} {classes classes' : List ClassRecord}
    (hperm : classes.Perm classes') (hnames : ∀ name, name ∈ names ↔ name ∈ names') :
    ((NameTable.ofList names).insertAll (mentions classes)).names.Perm
      ((NameTable.ofList names').insertAll (mentions classes')).names := by
  refine (List.perm_ext_iff_of_nodup ?_ ?_).2 fun name => ?_
  · exact NameTable.nodup_insertAll _ _ (NameTable.nodup_ofList names)
  · exact NameTable.nodup_insertAll _ _ (NameTable.nodup_ofList names')
  · rw [NameTable.mem_insertAll, NameTable.mem_insertAll, NameTable.mem_ofList,
      NameTable.mem_ofList, hnames, (mentions_perm hperm).mem_iff]

namespace Graph

/-- Two graphs give the same answers up to a renaming. Lists of what lies below a type or points
to a node follow the numbers, so of these only the order may differ. -/
structure SameAnswers (ρ : Renaming) (g h : Graph) : Prop where
  typeNames : ∀ ids, h.typeNames (ids.map ρ.types) = g.typeNames ids
  find? : ∀ name, Option.Rel (TypeNode.SameUpTo ρ) (g.find? name) (h.find? name)
  supertype? : ∀ id, h.supertype? (ρ.types id) = (g.supertype? id).map ρ.types
  interfaces : ∀ id, h.interfaces (ρ.types id) = (g.interfaces id).map ρ.types
  superClasses : ∀ id, h.superClasses (ρ.types id) = (g.superClasses id).map ρ.types
  allInterfaces : ∀ id, h.allInterfaces (ρ.types id) = (g.allInterfaces id).map ρ.types
  allSupertypes : ∀ id, h.allSupertypes (ρ.types id) = (g.allSupertypes id).map ρ.types
  subClasses : ∀ id, (h.subClasses (ρ.types id)).Perm ((g.subClasses id).map ρ.types)
  allSubClasses : ∀ id, (h.allSubClasses (ρ.types id)).Perm ((g.allSubClasses id).map ρ.types)
  isAssignableTo : ∀ id other,
    h.isAssignableTo (ρ.types id) (ρ.types other) = g.isAssignableTo id other
  membersOf : ∀ id, h.membersOf (ρ.types id) = (g.membersOf id).map (MemberNode.rename ρ)
  accessesFromMember : ∀ id,
    h.accessesFromMember (ρ.members id) = (g.accessesFromMember id).map (Access.rename ρ)
  accessesFromType : ∀ id,
    h.accessesFromType (ρ.types id) = (g.accessesFromType id).map (Access.rename ρ)
  annotationsOf : ∀ owner,
    h.annotationsOf (owner.rename ρ) = (g.annotationsOf owner).map (AnnotationNode.rename ρ)
  resolve : ∀ id, h.resolve (ρ.targets id) = (g.resolve id).map ρ.members
  dependencies : ∀ id,
    h.dependencies (ρ.types id) = (g.dependencies id).map (Dependency.rename ρ)
  dependents : ∀ id, ((DependencyIndex.ofGraph h).dependents (ρ.types id)).Perm
    (((DependencyIndex.ofGraph g).dependents id).map (Dependency.rename ρ))
  accessesToMember : ∀ id, ((ReverseIndex.ofGraph h).accessesToMember (ρ.members id)).Perm
    (((ReverseIndex.ofGraph g).accessesToMember id).map ρ.accesses)
  accessesToType : ∀ id, ((ReverseIndex.ofGraph h).accessesToType (ρ.types id)).Perm
    (((ReverseIndex.ofGraph g).accessesToType id).map ρ.accesses)

/-- Graphs that are the same up to a renaming give the same answers. -/
theorem SameUpTo.sameAnswers {ρ : Renaming} {g h : Graph} (S : SameUpTo ρ g h) :
    SameAnswers ρ g h where
  typeNames := S.typeNames_rename
  find? := S.find?_rename
  supertype? := S.supertype?_rename
  interfaces := S.interfaces_rename
  superClasses := S.superClasses_rename
  allInterfaces := S.allInterfaces_rename
  allSupertypes := S.allSupertypes_rename
  subClasses := S.subClasses_rename
  allSubClasses := S.allSubClasses_rename
  isAssignableTo := S.isAssignableTo_rename
  membersOf := S.membersOf_rename
  accessesFromMember := S.accessesFromMember_rename
  accessesFromType := S.accessesFromType_rename
  annotationsOf := S.annotationsOf_rename
  resolve := S.resolve_rename
  dependencies := S.dependencies_rename
  dependents := S.dependents_rename
  accessesToMember := S.accessesToMember_rename
  accessesToType := S.accessesToType_rename

/-- Parsed classes of different names can be linked in any order, on names numbered beforehand in
any order: both attempts succeed, and the graphs are the same up to a renaming. -/
theorem link_reordered {policy : DuplicatePolicy} {classes classes' : List ClassRecord}
    {names names' : List String}
    (hparsed : ∀ c ∈ classes, ∃ bytes, ClassRecord.parse bytes = .ok c)
    (hdistinct : (classes.map ClassRecord.name).Nodup) (hperm : classes.Perm classes')
    (hnames : ∀ name, name ∈ names ↔ name ∈ names') :
    ∃ g h, link (NameTable.ofList names) policy classes = .ok g ∧
      link (NameTable.ofList names') policy classes' = .ok h ∧
      ∃ ρ, SameUpTo ρ g h ∧ SameAnswers ρ g h := by
  have hdistinct' := (hperm.map ClassRecord.name).nodup_iff.1 hdistinct
  have R : Reordered ((NameTable.ofList names).insertAll (mentions classes))
      ((NameTable.ofList names').insertAll (mentions classes')) classes classes' :=
    { nodup := NameTable.nodup_insertAll _ _ (NameTable.nodup_ofList names)
      names := insertAll_perm hperm hnames
      distinct := hdistinct
      perm := hperm
      agree := targetsAgree_of_parse hparsed }
  exact ⟨_, _, link_eq_ok_iff.2 ⟨classes, dedupe_of_nodup hdistinct, rfl⟩,
    link_eq_ok_iff.2 ⟨classes', dedupe_of_nodup hdistinct', rfl⟩,
    R.renumbering, R.sameUpTo, R.sameUpTo.sameAnswers⟩

theorem exists_of_toOption_map {ε α β : Type} {result : Except ε α} {f : α → β} {b : β}
    (h : (result.map f).toOption = some b) : ∃ a, result = .ok a ∧ f a = b := by
  cases result with
  | error e => cases h
  | ok a => exact ⟨a, rfl, Option.some.inj h⟩

open Assembly in
/-- Two parsed classes, one below the other, can be linked in either order. -/
theorem link_reordered_pair :
    ∃ a b g h ρ, ClassRecord.parse (ClassSpec.plain "A").assemble = .ok a ∧
      ClassRecord.parse ((ClassSpec.plain "B").extending "A").assemble = .ok b ∧
      link (NameTable.ofList ["X", "Y"]) .fail [a, b] = .ok g ∧
      link (NameTable.ofList ["Y", "X"]) .fail [b, a] = .ok h ∧
      SameUpTo ρ g h ∧ SameAnswers ρ g h := by
  obtain ⟨a, ha, hnameA⟩ : ∃ a, ClassRecord.parse (ClassSpec.plain "A").assemble = .ok a ∧
      a.name = "A" :=
    exists_of_toOption_map (by decide +kernel)
  obtain ⟨b, hb, hnameB⟩ :
      ∃ b, ClassRecord.parse ((ClassSpec.plain "B").extending "A").assemble = .ok b ∧
        b.name = "B" :=
    exists_of_toOption_map (by decide +kernel)
  have hparsed : ∀ c ∈ [a, b], ∃ bytes, ClassRecord.parse bytes = .ok c := by
    intro c hc
    rcases List.mem_cons.1 hc with rfl | hc
    · exact ⟨_, ha⟩
    · rw [List.mem_singleton.1 hc]
      exact ⟨_, hb⟩
  have hdistinct : ([a, b].map ClassRecord.name).Nodup := by
    rw [List.map_cons, List.map_cons, List.map_nil, hnameA, hnameB]
    decide
  have hnames : ∀ name, name ∈ ["X", "Y"] ↔ name ∈ ["Y", "X"] := by
    intro name
    rw [List.mem_cons, List.mem_singleton, List.mem_cons, List.mem_singleton]
    exact or_comm
  obtain ⟨g, h, hg, hh, ρ, hsame, hanswers⟩ :=
    link_reordered hparsed hdistinct (List.Perm.swap b a []) hnames
  exact ⟨a, b, g, h, ρ, ha, hb, hg, hh, hsame, hanswers⟩

end Graph

end TypeAtlas
