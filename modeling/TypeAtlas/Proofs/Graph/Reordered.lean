import TypeAtlas.Proofs.Graph.Blocks
import TypeAtlas.Proofs.Graph.Buckets
import TypeAtlas.Proofs.Graph.Linked
import TypeAtlas.Proofs.Graph.Renaming

/-!
# Graphs of reordered classes

The same classes in another order, on a table that numbers the same names in another order, give a
graph that is the same up to a renaming (`Reordered.sameUpTo`). The renaming moves a type with its
name, a member, an annotation or an access with the block of its class, and a target with its key.
-/

set_option autoImplicit false

namespace TypeAtlas

open ClassFile (MemberReference)

/-! ## Annotations -/

namespace ElementValue

variable {τ σ υ : Type} (f : τ → σ) (k : σ → υ)

mutual

theorem map_map (value : ElementValue τ) : (value.map f).map k = value.map (k ∘ f) := by
  cases value with
  | const value => simp only [map]
  | enumConst type name => simp only [map, Function.comp_apply]
  | classLiteral type => simp only [map, Function.comp_apply]
  | nested descriptor type elements =>
    simp only [map, Function.comp_apply]
    rw [mapElements_mapElements elements]
  | array values =>
    simp only [map]
    rw [mapValues_mapValues values]

theorem mapElements_mapElements (elements : List (String × ElementValue τ)) :
    mapElements k (mapElements f elements) = mapElements (k ∘ f) elements := by
  cases elements with
  | nil => simp only [mapElements]
  | cons element rest =>
    obtain ⟨name, value⟩ := element
    simp only [mapElements]
    rw [map_map value, mapElements_mapElements rest]

theorem mapValues_mapValues (values : List (ElementValue τ)) :
    mapValues k (mapValues f values) = mapValues (k ∘ f) values := by
  cases values with
  | nil => simp only [mapValues]
  | cons value rest =>
    simp only [mapValues]
    rw [map_map value, mapValues_mapValues rest]

end

end ElementValue

/-- References that are exchanged twice are exchanged at once. -/
theorem AnnotationTree.map_map {τ σ υ : Type} (f : τ → σ) (k : σ → υ) (a : AnnotationTree τ) :
    (a.map f).map k = a.map (k ∘ f) := by
  unfold map
  rw [ElementValue.mapElements_mapElements]
  rfl

namespace Link

/-- The node of the target that a reference aims at. -/
def targetNode (table : NameTable) (id : TargetId) (r : MemberReference) : AccessTarget :=
  { id
    kind := targetKind r
    owner := table.idOf r.owner
    name := r.name
    descriptor := r.descriptor
    parameters := r.parameterTypes.map table.idOf
    returnType := table.idOf r.valueType
    fullName :=
      match targetKind r with
      | .field => fieldFullName r.owner r.name
      | _ => codeUnitFullName r.owner r.name r.parameterTypes }

theorem targetNodes_eq (table : NameTable) (classes : List ClassRecord) :
    targetNodes table classes =
      (numbered 0 (targetReferences classes)).map fun entry => targetNode table entry.1 entry.2 :=
  rfl

theorem map_id_targetNodes (table : NameTable) (classes : List ClassRecord) :
    (targetNodes table classes).map AccessTarget.id =
      List.range' 0 (targetReferences classes).length := by
  rw [targetNodes_eq, List.map_map, ← map_fst_numbered]
  rfl

end Link

/-! ## Consecutive numbers -/

/-- Consecutive numbers that move together stay consecutive. -/
theorem numbersFor_map {α : Type} {ρ : Nat → Nat} {first first' : Nat} {list : List α}
    (h : ∀ offset < list.length, ρ (first + offset) = first' + offset) :
    numbersFor first' list = (numbersFor first list).map ρ := by
  apply List.ext_getElem (by simp [numbersFor])
  intro index hl hr
  have hlt : index < list.length := by simpa [numbersFor] using hl
  rw [List.getElem_map]
  simp only [numbersFor, List.getElem_range', Nat.one_mul]
  exact (h index hlt).symm

theorem numbered_map {α : Type} {ρ : Nat → Nat} {first first' : Nat} {list : List α}
    (h : ∀ offset < list.length, ρ (first + offset) = first' + offset) :
    numbered first' list = (numbered first list).map fun entry => (ρ entry.1, entry.2) := by
  rw [numbered, numbersFor_map h, List.zip_map_left, numbered]
  rfl

/-! ## The renaming -/

/-- The keys of the targets of classes. -/
def targetKeys (classes : List ClassRecord) : List TargetKey :=
  (targetReferences classes).map targetKey

theorem targetKeys_eq (classes : List ClassRecord) :
    targetKeys classes = distinct ((references classes).map targetKey) :=
  map_distinctOn targetKey (references classes)

/-- References that aim at the same target name the same types. -/
def TargetsAgree (classes : List ClassRecord) : Prop :=
  ∀ r ∈ references classes, ∀ r' ∈ references classes, targetKey r = targetKey r' →
    r.parameterTypes = r'.parameterTypes ∧ r.valueType = r'.valueType

/-- The same classes in another order, on tables that number the same names. -/
structure Reordered (table table' : NameTable) (classes classes' : List ClassRecord) : Prop where
  nodup : table.names.Nodup
  names : table.names.Perm table'.names
  distinct : (classes.map ClassRecord.name).Nodup
  perm : classes.Perm classes'
  agree : TargetsAgree classes

namespace Reordered

variable {table table' : NameTable} {classes classes' : List ClassRecord}
  (R : Reordered table table' classes classes')
include R

theorem references_perm : (references classes).Perm (references classes') :=
  R.perm.flatMap_right _

theorem targetKeys_perm : (targetKeys classes).Perm (targetKeys classes') := by
  rw [targetKeys_eq, targetKeys_eq]
  exact distinct_perm (R.references_perm.map targetKey)

omit R in
theorem nodup_targetKeys (classes : List ClassRecord) : (targetKeys classes).Nodup := by
  rw [targetKeys_eq]
  exact nodup_distinct _

/-- The renaming that moves each node with what it stands for. -/
def renumbering : Renaming where
  types := reindex R.names R.nodup
  members := reindex (blockKeys_perm ClassRecord.memberCount R.perm)
    (nodup_blockKeys _ R.distinct)
  annotations := reindex (blockKeys_perm ClassRecord.annotationCount R.perm)
    (nodup_blockKeys _ R.distinct)
  targets := reindex R.targetKeys_perm (nodup_targetKeys classes)
  accesses := reindex (blockKeys_perm ClassRecord.accessCount R.perm)
    (nodup_blockKeys _ R.distinct)

/-- The number of a name moves with the name, whether or not it is in the table. -/
theorem idOf (name : String) : table'.idOf name = R.renumbering.types (table.idOf name) :=
  (reindex_idxOf R.names R.nodup name).symm

theorem root : Link.root table' = R.renumbering.types (Link.root table) := R.idOf rootName

theorem eq_root_iff (id : TypeId) :
    R.renumbering.types id = Link.root table' ↔ id = Link.root table := by
  rw [R.root, R.renumbering.types.apply_eq_iff_eq]

theorem find? (name : String) : table'.find? name = (table.find? name).map R.renumbering.types := by
  rw [NameTable.find?_eq, NameTable.find?_eq, R.idOf]
  by_cases hmem : name ∈ table.names
  · rw [if_pos hmem, if_pos (R.names.mem_iff.1 hmem), Option.map_some]
  · rw [if_neg hmem, if_neg fun h => hmem (R.names.mem_iff.2 h), Option.map_none]

theorem map_idOf (names : List String) :
    names.map table'.idOf = (names.map table.idOf).map R.renumbering.types := by
  rw [List.map_map]
  exact List.map_congr_left fun name _ => R.idOf name

theorem targetOf (r : MemberReference) :
    Link.targetOf (targetKeys classes') r =
      R.renumbering.targets (Link.targetOf (targetKeys classes) r) :=
  (reindex_idxOf R.targetKeys_perm (nodup_targetKeys classes) (targetKey r)).symm

section Starts

variable {c : ClassRecord} (hc : c ∈ classes) {offset : Nat}
include hc

theorem member_start (hoffset : offset < c.memberCount) :
    R.renumbering.members ((startOf {} classes c.name).members + offset) =
      (startOf {} classes' c.name).members + offset :=
  reindex_blockKeys ClassRecord.memberCount Numbering.members rfl (fun n d => by rw [pastClass_eq])
    R.perm R.distinct hc hoffset

theorem annotation_start (hoffset : offset < c.annotationCount) :
    R.renumbering.annotations ((startOf {} classes c.name).annotations + offset) =
      (startOf {} classes' c.name).annotations + offset :=
  reindex_blockKeys ClassRecord.annotationCount Numbering.annotations rfl
    (fun n d => by rw [pastClass_eq]) R.perm R.distinct hc hoffset

theorem access_start (hoffset : offset < c.accessCount) :
    R.renumbering.accesses ((startOf {} classes c.name).accesses + offset) =
      (startOf {} classes' c.name).accesses + offset :=
  reindex_blockKeys ClassRecord.accessCount Numbering.accesses rfl (fun n d => by rw [pastClass_eq])
    R.perm R.distinct hc hoffset

theorem annotation_offset {length : Nat} (hle : offset + length ≤ c.annotationCount) :
    ∀ k < length, R.renumbering.annotations ((startOf {} classes c.name).annotations + offset + k) =
      (startOf {} classes' c.name).annotations + offset + k := by
  intro k hk
  rw [Nat.add_assoc, Nat.add_assoc]
  exact R.annotation_start hc (by omega)

theorem access_offset {length : Nat} (hle : offset + length ≤ c.accessCount) :
    ∀ k < length, R.renumbering.accesses ((startOf {} classes c.name).accesses + offset + k) =
      (startOf {} classes' c.name).accesses + offset + k := by
  intro k hk
  rw [Nat.add_assoc, Nat.add_assoc]
  exact R.access_start hc (by omega)

/-- The annotations of the class itself stand at the start of its block. -/
theorem own_annotation : ∀ k < c.annotations.length,
    R.renumbering.annotations ((startOf {} classes c.name).annotations + k) =
      (startOf {} classes' c.name).annotations + k := by
  intro k hk
  exact R.annotation_start hc (Nat.lt_of_lt_of_le hk (Nat.le_add_right _ _))

end Starts

/-! ## Nodes of a class -/

theorem annotationNodes {first first' : Nat} {owner : AnnotationOwner}
    {annotations : List (AnnotationTree String)}
    (h : ∀ k < annotations.length, R.renumbering.annotations (first + k) = first' + k) :
    Link.annotationNodes table' first' (owner.rename R.renumbering) annotations =
      (Link.annotationNodes table first owner annotations).map
        (AnnotationNode.rename R.renumbering) := by
  have htree : ∀ tree : AnnotationTree String,
      tree.map table'.idOf = (tree.map table.idOf).map R.renumbering.types := by
    intro tree
    rw [AnnotationTree.map_map]
    exact congrArg tree.map (funext R.idOf)
  unfold Link.annotationNodes
  rw [numbered_map h, List.map_map, List.map_map]
  apply List.map_congr_left
  intro entry _
  simp only [Function.comp_apply, AnnotationNode.rename, htree]

section Class

variable {c : ClassRecord} (hc : c ∈ classes)
include hc

theorem memberNode {p : PlacedMember} (hp : p ∈ memberOffsets c) :
    Link.memberNode table' c (p.from (startOf {} classes' c.name)) =
      (Link.memberNode table c (p.from (startOf {} classes c.name))).rename R.renumbering := by
  obtain ⟨hmember, hannotations, haccesses⟩ := memberOffsets_le hp
  have hid := R.member_start hc hmember
  have hannotationIds := numbersFor_map (R.annotation_offset hc hannotations)
  have haccessIds := numbersFor_map (R.access_offset hc haccesses)
  simp only [Link.memberNode, MemberNode.rename, PlacedMember.from, Numbering.add, hid,
    hannotationIds, haccessIds, R.idOf, R.map_idOf]

theorem classAnnotations :
    Link.classAnnotations table' (placeClass (startOf {} classes' c.name) c) =
      (Link.classAnnotations table (placeClass (startOf {} classes c.name) c)).map
        (AnnotationNode.rename R.renumbering) := by
  have howner : AnnotationOwner.type (table'.idOf c.name) =
      (AnnotationOwner.type (table.idOf c.name)).rename R.renumbering := by
    rw [AnnotationOwner.rename, R.idOf]
  unfold Link.classAnnotations
  rw [members_placeClass, members_placeClass, List.map_append, List.map_flatMap, List.flatMap_map,
    List.flatMap_map]
  congr 1
  · show Link.annotationNodes table' _ (.type (table'.idOf c.name)) _ = _
    rw [howner]
    exact R.annotationNodes (R.own_annotation hc)
  -- those of a member, at its offset in the block
  · apply List.flatMap_congr
    intro p hp
    obtain ⟨hmember, hannotations, -⟩ := memberOffsets_le hp
    have hmemberOwner : AnnotationOwner.member (p.from (startOf {} classes' c.name)).start.members =
        (AnnotationOwner.member (p.from (startOf {} classes c.name)).start.members).rename
          R.renumbering := by
      rw [AnnotationOwner.rename]
      exact congrArg AnnotationOwner.member (R.member_start hc hmember).symm
    rw [hmemberOwner]
    exact R.annotationNodes (R.annotation_offset hc hannotations)

theorem memberAccesses {p : PlacedMember} (hp : p ∈ memberOffsets c) :
    Link.memberAccesses (targetKeys classes') (p.from (startOf {} classes' c.name)) =
      (Link.memberAccesses (targetKeys classes) (p.from (startOf {} classes c.name))).map
        (Access.rename R.renumbering) := by
  obtain ⟨hmember, -, haccesses⟩ := memberOffsets_le hp
  have hid := R.member_start hc hmember
  have hentries : numbered (p.from (startOf {} classes' c.name)).start.accesses
      (p.from (startOf {} classes' c.name)).member.references =
      (numbered (p.from (startOf {} classes c.name)).start.accesses
        (p.from (startOf {} classes c.name)).member.references).map
          fun entry => (R.renumbering.accesses entry.1, entry.2) :=
    numbered_map (R.access_offset hc haccesses)
  unfold Link.memberAccesses
  rw [hentries, List.map_map, List.map_map]
  apply List.map_congr_left
  intro entry _
  simp only [Function.comp_apply, Access.rename, R.targetOf, PlacedMember.from, Numbering.add, hid]

end Class

/-- Blocks that are renamed class by class hold the same nodes in all. -/
theorem blocks_perm {α β : Type} {f : α → β} {nodes : PlacedClass → List α}
    {nodes' : PlacedClass → List β}
    (h : ∀ c ∈ classes, nodes' (placeClass (startOf {} classes' c.name) c) =
      (nodes (placeClass (startOf {} classes c.name) c)).map f) :
    ((placeClasses {} classes').flatMap nodes').Perm
      (((placeClasses {} classes).flatMap nodes).map f) := by
  have hdistinct' := (R.perm.map ClassRecord.name).nodup_iff.1 R.distinct
  rw [placeClasses_eq_map hdistinct', placeClasses_eq_map R.distinct, List.flatMap_map,
    List.flatMap_map, List.map_flatMap]
  exact (R.perm.symm.flatMap_right _).trans (.of_eq (List.flatMap_congr h))

/-! ## Arenas -/

theorem members (id : MemberId) :
    (Graph.build table' classes').members[R.renumbering.members id]? =
      (Graph.build table classes).members[id]?.map (MemberNode.rename R.renumbering) := by
  rw [getElem?_members_build, getElem?_members_build]
  refine getElem?_rename_of_ids (Link.map_id_members table classes)
    (Link.map_id_members table' classes') (R.blocks_perm fun c hc => ?_) (fun _ => rfl) id
  rw [members_placeClass, members_placeClass, List.map_map, List.map_map, List.map_map]
  exact List.map_congr_left fun p hp => R.memberNode hc hp

theorem annotations (id : AnnotationId) :
    (Graph.build table' classes').annotations[R.renumbering.annotations id]? =
      (Graph.build table classes).annotations[id]?.map
        (AnnotationNode.rename R.renumbering) := by
  rw [Graph.build, Graph.build, List.getElem?_toArray, List.getElem?_toArray]
  exact getElem?_rename_of_ids (Link.map_id_annotations table classes)
    (Link.map_id_annotations table' classes') (R.blocks_perm fun c hc => R.classAnnotations hc)
    (fun _ => rfl) id

theorem accesses (id : AccessId) :
    (Graph.build table' classes').accesses[R.renumbering.accesses id]? =
      (Graph.build table classes).accesses[id]?.map (Access.rename R.renumbering) := by
  rw [Graph.build, Graph.build, List.getElem?_toArray, List.getElem?_toArray]
  refine getElem?_rename_of_ids (Link.map_id_accesses _ classes)
    (Link.map_id_accesses _ classes') (R.blocks_perm fun c hc => ?_) (fun _ => rfl) id
  rw [members_placeClass, members_placeClass, List.map_flatMap, List.flatMap_map, List.flatMap_map]
  exact List.flatMap_congr fun p hp => R.memberAccesses hc hp

/-! ## Targets -/

omit R in
theorem targetNodes_eq_map (table : NameTable) (classes : List ClassRecord) :
    Link.targetNodes table classes = (targetReferences classes).map fun r =>
      Link.targetNode table (Link.targetOf (targetKeys classes) r) r := by
  rw [Link.targetNodes_eq, numbered_eq_map targetKey (nodup_targetKeys classes), List.map_map]
  rfl

/-- References with the same key make the same target. -/
theorem targetNode {r r' : MemberReference} (hr : r ∈ references classes)
    (hr' : r' ∈ references classes) (hkey : targetKey r = targetKey r') :
    Link.targetNode table' (Link.targetOf (targetKeys classes') r') r' =
      (Link.targetNode table (Link.targetOf (targetKeys classes) r) r).rename R.renumbering := by
  obtain ⟨hparameters, hvalue⟩ := R.agree r hr r' hr' hkey
  have hparts := hkey
  simp only [targetKey, TargetKey.mk.injEq] at hparts
  obtain ⟨hkind, howner, hname, hdescriptor⟩ := hparts
  have htarget : Link.targetOf (targetKeys classes) r = Link.targetOf (targetKeys classes) r' := by
    rw [Link.targetOf, hkey, Link.targetOf]
  simp only [Link.targetNode, AccessTarget.rename, R.targetOf, htarget, hkind, howner, hname,
    hdescriptor, hparameters, hvalue, R.idOf, R.map_idOf]

theorem targetNodes_perm : (Link.targetNodes table' classes').Perm
    ((Link.targetNodes table classes).map (AccessTarget.rename R.renumbering)) := by
  -- both sides hold each target once, so it is enough to compare what they hold
  have hnodup : ((Link.targetNodes table classes).map
      (AccessTarget.rename R.renumbering)).Nodup := by
    apply List.Nodup.of_map AccessTarget.id
    have hids : ((Link.targetNodes table classes).map (AccessTarget.rename R.renumbering)).map
        AccessTarget.id =
          ((Link.targetNodes table classes).map AccessTarget.id).map R.renumbering.targets := by
      rw [List.map_map, List.map_map]
      rfl
    rw [hids, Link.map_id_targetNodes]
    exact (List.nodup_range' _).map R.renumbering.targets.injective
  have hnodup' : (Link.targetNodes table' classes').Nodup := by
    apply List.Nodup.of_map AccessTarget.id
    rw [Link.map_id_targetNodes]
    exact List.nodup_range' _
  apply (List.perm_ext_iff_of_nodup hnodup' hnodup).2
  intro node
  rw [targetNodes_eq_map, targetNodes_eq_map, List.map_map, List.mem_map, List.mem_map]
  constructor
  · rintro ⟨r', hr', rfl⟩
    -- a target of the one graph has its key in the other, and the same types by agreement
    have hmem := R.targetKeys_perm.mem_iff.2 (List.mem_map_of_mem (f := targetKey) hr')
    obtain ⟨r, hr, hkey⟩ := List.mem_map.1 hmem
    have hrefs' := R.references_perm.mem_iff.2 (mem_of_mem_distinctOn hr')
    exact ⟨r, hr, (R.targetNode (mem_of_mem_distinctOn hr) hrefs' hkey).symm⟩
  · rintro ⟨r, hr, rfl⟩
    have hmem := R.targetKeys_perm.mem_iff.1 (List.mem_map_of_mem (f := targetKey) hr)
    obtain ⟨r', hr', hkey⟩ := List.mem_map.1 hmem
    have hrefs' := R.references_perm.mem_iff.2 (mem_of_mem_distinctOn hr')
    exact ⟨r', hr', R.targetNode (mem_of_mem_distinctOn hr) hrefs' hkey.symm⟩

theorem targets (id : TargetId) :
    (Graph.build table' classes').targets[R.renumbering.targets id]? =
      (Graph.build table classes).targets[id]?.map (AccessTarget.rename R.renumbering) := by
  rw [Graph.build, Graph.build, List.getElem?_toArray, List.getElem?_toArray]
  exact getElem?_rename_of_ids (Link.map_id_targetNodes table classes)
    (Link.map_id_targetNodes table' classes') R.targetNodes_perm (fun _ => rfl) id

/-! ## Types -/

section Imported

variable {c : ClassRecord} (hc : c ∈ classes) (id : TypeId)

omit R in
theorem record_placeClass (start : Numbering) (c : ClassRecord) : (placeClass start c).record = c :=
  rfl

omit R in
theorem start_placeClass (start : Numbering) (c : ClassRecord) :
    (placeClass start c).start = start :=
  rfl

theorem supertype_importedNode (start start' : Numbering) :
    (Link.importedNode table' (R.renumbering.types id) (placeClass start' c)).supertype =
      (Link.importedNode table id (placeClass start c)).supertype.map R.renumbering.types := by
  simp only [Link.importedNode, record_placeClass]
  cases c.superClass with
  | some name => exact congrArg some (R.idOf name)
  -- a class without a superclass is the root, or lies directly below it
  | none =>
    show (if R.renumbering.types id = Link.root table' then none else some (Link.root table')) =
      (if id = Link.root table then none else some (Link.root table)).map R.renumbering.types
    by_cases h : id = Link.root table
    · rw [if_pos h, if_pos ((R.eq_root_iff id).2 h), Option.map_none]
    · rw [if_neg h, if_neg fun h' => h ((R.eq_root_iff id).1 h'), Option.map_some, R.root]

include hc

theorem importedNode :
    Link.importedNode table' (R.renumbering.types id) (placeClass (startOf {} classes' c.name) c) =
      (Link.importedNode table id (placeClass (startOf {} classes c.name) c)).rename
        R.renumbering [] := by
  have hmembers : (placeClass (startOf {} classes' c.name) c).members.map (·.start.members) =
      ((placeClass (startOf {} classes c.name) c).members.map (·.start.members)).map
        R.renumbering.members := by
    rw [members_placeClass, members_placeClass, List.map_map, List.map_map, List.map_map]
    apply List.map_congr_left
    intro p hp
    exact (R.member_start hc (memberOffsets_le hp).1).symm
  have hannotations : numbersFor (startOf {} classes' c.name).annotations c.annotations =
      (numbersFor (startOf {} classes c.name).annotations c.annotations).map
        R.renumbering.annotations :=
    numbersFor_map (R.own_annotation hc)
  have henclosing : c.enclosingClass.map table'.idOf =
      (c.enclosingClass.map table.idOf).map R.renumbering.types := by
    rw [Option.map_map]
    exact congrArg (Option.map · c.enclosingClass) (funext R.idOf)
  have hsupertype := R.supertype_importedNode (c := c) id (startOf {} classes c.name)
    (startOf {} classes' c.name)
  simp only [Link.importedNode, record_placeClass] at hsupertype
  simp only [Link.importedNode, TypeNode.rename, record_placeClass, start_placeClass, hmembers,
    hannotations, hsupertype, henclosing, R.map_idOf, Option.map_none]

end Imported

theorem interfaceUses_perm :
    (Link.interfaceUses classes).Perm (Link.interfaceUses classes') :=
  (R.perm.flatMap_right _).append ((R.references_perm.filter _).map _)

theorem stubKind (name : String) :
    Link.stubKind (Link.interfaceUses classes') name =
      Link.stubKind (Link.interfaceUses classes) name := by
  have hcontains : (Link.interfaceUses classes').contains name =
      (Link.interfaceUses classes).contains name := by
    rw [Bool.eq_iff_iff, List.contains_iff_mem, List.contains_iff_mem,
      R.interfaceUses_perm.mem_iff]
  rw [Link.stubKind, hcontains, Link.stubKind]

theorem stubNode (id : TypeId) (name : String) :
    Link.stubNode table' (Link.interfaceUses classes') (R.renumbering.types id) name =
      (Link.stubNode table (Link.interfaceUses classes) id name).rename R.renumbering [] := by
  have hcomponent : (Text.componentOf name).bind table'.find? =
      ((Text.componentOf name).bind table.find?).map R.renumbering.types := by
    cases Text.componentOf name with
    | none => rfl
    | some component => exact R.find? component
  -- a stub lies below the root unless it is the root or primitive
  have hsupertype : ∀ kind : TypeKind,
      (if R.renumbering.types id = Link.root table' ∨ kind = .primitive then none
        else some (Link.root table')) =
      (if id = Link.root table ∨ kind = .primitive then none
        else some (Link.root table)).map R.renumbering.types := by
    intro kind
    have hiff : (R.renumbering.types id = Link.root table' ∨ kind = .primitive) ↔
        (id = Link.root table ∨ kind = .primitive) :=
      or_congr_left (R.eq_root_iff id)
    by_cases h : id = Link.root table ∨ kind = .primitive
    · rw [if_pos h, if_pos (hiff.2 h), Option.map_none]
    · rw [if_neg h, if_neg fun h' => h (hiff.1 h'), Option.map_some, R.root]
  simp only [Link.stubNode, TypeNode.rename, R.stubKind, hcomponent, hsupertype, List.map_nil,
    Option.map_none]

/-- The node of a name is the renamed node of the name. -/
theorem openNode (id : TypeId) (name : String) :
    Link.openNode table' classes' (R.renumbering.types id) name =
      (Link.openNode table classes id name).rename R.renumbering [] := by
  unfold Link.openNode Link.typeNode
  rw [find?_placeClasses, find?_placeClasses, find?_perm R.perm R.distinct]
  cases hfind : classes.find? fun c => c.name == name with
  -- no class has the name in either order
  | none => exact R.stubNode id name
  | some c =>
    have hname := List.find?_some hfind
    have hsame : c.name = name := eq_of_beq hname
    subst hsame
    exact R.importedNode (List.mem_of_find?_eq_some hfind) id

omit R in
/-- The nodes of a table, by name. -/
theorem openNodes_eq_map (hnodup : table.names.Nodup) (classes : List ClassRecord) :
    ((numbered 0 table.names).map fun entry => Link.openNode table classes entry.1 entry.2) =
      table.names.map fun name => Link.openNode table classes (table.idOf name) name := by
  rw [numbered_eq_map id (by rwa [List.map_id]), List.map_id, List.map_map]
  rfl

theorem openNodes_perm :
    ((numbered 0 table'.names).map fun entry => Link.openNode table' classes' entry.1 entry.2).Perm
      (((numbered 0 table.names).map fun entry => Link.openNode table classes entry.1 entry.2).map
        (TypeNode.rename R.renumbering [])) := by
  rw [openNodes_eq_map R.nodup, openNodes_eq_map (R.names.nodup_iff.1 R.nodup), List.map_map]
  refine (R.names.symm.map _).trans (.of_eq (List.map_congr_left fun name _ => ?_))
  rw [R.idOf, R.openNode, Function.comp_apply]

omit R in
theorem upwardEdges_rename (ρ : Renaming) (node : TypeNode) :
    Link.upwardEdges (node.rename ρ []) =
      (Link.upwardEdges node).map fun edge => (ρ.types edge.1, ρ.types edge.2) := by
  have habove : (node.supertype.map ρ.types).toList ++ node.interfaces.map ρ.types =
      (node.supertype.toList ++ node.interfaces).map ρ.types := by
    rw [List.map_append]
    cases node.supertype <;> rfl
  simp only [Link.upwardEdges, TypeNode.rename, habove, distinct_map ρ.types.injective,
    List.map_map]
  rfl

/-- A type has the same types directly below it, in an order that follows the numbers. -/
theorem below (id : TypeId) :
    ((Link.below table' classes')[R.renumbering.types id]?.getD []).Perm
      (((Link.below table classes)[id]?.getD []).map R.renumbering.types) := by
  -- there are as many buckets as names
  have hsize : ∀ a, R.renumbering.types a <
      ((numbered 0 table'.names).map fun entry =>
        Link.openNode table' classes' entry.1 entry.2).length ↔
      a < ((numbered 0 table.names).map fun entry =>
        Link.openNode table classes entry.1 entry.2).length := by
    intro a
    rw [openNodes_eq_map R.nodup, openNodes_eq_map (R.names.nodup_iff.1 R.nodup), List.length_map,
      List.length_map]
    exact reindex_lt_iff R.names R.nodup a
  refine distribute_rename hsize ?_ id
  refine (R.openNodes_perm.flatMap_right _).trans (.of_eq ?_)
  rw [List.flatMap_map, List.map_flatMap]
  exact List.flatMap_congr fun node _ => upwardEdges_rename R.renumbering node

theorem types (id : TypeId) :
    Option.Rel (TypeNode.SameUpTo R.renumbering) (Graph.build table classes).types[id]?
      (Graph.build table' classes').types[R.renumbering.types id]? := by
  rw [getElem?_types_build, getElem?_types_build]
  have hname : table'.names[R.renumbering.types id]? = table.names[id]? :=
    getElem?_reindex R.names R.nodup id
  rw [hname]
  cases table.names[id]? with
  | none => exact .none
  | some name =>
    refine .some ⟨R.below id, ?_⟩
    simp only [R.openNode, TypeNode.rename]

/-- Reordered classes give the same graph, up to a renaming. -/
theorem sameUpTo : Graph.SameUpTo R.renumbering (Graph.build table classes)
    (Graph.build table' classes') where
  root := R.root
  names := getElem?_reindex R.names R.nodup
  numbers := R.find?
  types := R.types
  members := R.members
  annotations := R.annotations
  targets := R.targets
  accesses := R.accesses

end Reordered

end TypeAtlas
