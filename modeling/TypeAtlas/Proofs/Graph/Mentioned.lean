import TypeAtlas.Proofs.Graph.Linked

/-!
# Names that records mention are numbered

Every name in a record, wherever it stands, is among the names that linking numbers before it makes
any node (`mentions`). So on the table that a graph is built on (`Linkable`) each such name has the
number of a type (`idOf_lt_size`), and can be read back from it (`typeNames_map_idOf`).
-/

set_option autoImplicit false

namespace TypeAtlas

open ClassFile (MemberReference)

/-! ## Where names are mentioned -/

/-- A name comes last among its component types. -/
theorem mem_componentsFirst (name : List Char) : String.ofList name ∈ componentsFirst name := by
  unfold componentsFirst
  split
  · exact List.mem_append_right _ (List.mem_singleton_self _)
  · exact List.mem_singleton_self _

section Mentions

variable {classes : List ClassRecord} {c : ClassRecord} {m : DeclaredMember} {name : String}

theorem mem_mentions_of_mem
    (h : name ∈ rootName :: classes.map (·.name) ++ classes.flatMap ClassRecord.mentions) :
    name ∈ mentions classes := by
  have hself := mem_componentsFirst name.toList
  rw [String.ofList_toList] at hself
  exact List.mem_flatMap.2 ⟨name, h, hself⟩

theorem rootName_mem_mentions : rootName ∈ mentions classes :=
  mem_mentions_of_mem (List.mem_append_left _ List.mem_cons_self)

theorem mem_mentions_of_class (hc : c ∈ classes) (h : name ∈ c.mentions) :
    name ∈ mentions classes :=
  mem_mentions_of_mem (List.mem_append_right _ (List.mem_flatMap.2 ⟨c, hc, h⟩))

end Mentions

namespace ClassRecord

variable {c : ClassRecord} {name : String}

theorem name_mem_mentions : c.name ∈ c.mentions := by simp [mentions]

theorem superClass_mem_mentions (h : c.superClass = some name) : name ∈ c.mentions := by
  simp [mentions, h]

theorem interface_mem_mentions (h : name ∈ c.interfaces) : name ∈ c.mentions := by
  simp [mentions, h]

theorem enclosingClass_mem_mentions (h : c.enclosingClass = some name) : name ∈ c.mentions := by
  simp [mentions, h]

theorem annotation_mem_mentions {a : AnnotationTree String} (ha : a ∈ c.annotations)
    (h : name ∈ a.types) : name ∈ c.mentions := by
  have hmem : name ∈ c.annotations.flatMap AnnotationTree.types := List.mem_flatMap.2 ⟨a, ha, h⟩
  unfold mentions
  exact List.mem_append_left _ (List.mem_append_right _ hmem)

theorem member_mem_mentions {m : DeclaredMember} (hm : m ∈ c.declaredMembers)
    (h : name ∈ m.mentions) : name ∈ c.mentions :=
  List.mem_append_right _ (List.mem_flatMap.2 ⟨m, hm, h⟩)

end ClassRecord

namespace DeclaredMember

variable {m : DeclaredMember} {name : String}

theorem parameterType_mem_mentions (h : name ∈ m.parameterTypes) : name ∈ m.mentions := by
  simp [mentions, h]

theorem valueType_mem_mentions : m.valueType ∈ m.mentions := by simp [mentions]

theorem throws_mem_mentions (h : name ∈ m.throws) : name ∈ m.mentions := by simp [mentions, h]

theorem annotation_mem_mentions {a : AnnotationTree String} (ha : a ∈ m.annotations)
    (h : name ∈ a.types) : name ∈ m.mentions := by
  have hmem : name ∈ m.annotations.flatMap AnnotationTree.types := List.mem_flatMap.2 ⟨a, ha, h⟩
  unfold mentions
  exact List.mem_append_left _ (List.mem_append_right _ hmem)

theorem reference_mem_mentions {r : MemberReference} (hr : r ∈ m.references)
    (h : name ∈ referenceMentions r) : name ∈ m.mentions :=
  List.mem_append_right _ (List.mem_flatMap.2 ⟨r, hr, h⟩)

end DeclaredMember

/-- The types of a reference are mentioned by the class whose code makes it. -/
theorem mem_mentions_of_reference {classes : List ClassRecord} {r : MemberReference} {name : String}
    (hr : r ∈ references classes) (h : name ∈ referenceMentions r) : name ∈ mentions classes := by
  obtain ⟨c, hc, hr⟩ := List.mem_flatMap.1 hr
  obtain ⟨m, hm, hr⟩ := List.mem_flatMap.1 hr
  exact mem_mentions_of_class hc (c.member_mem_mentions hm (m.reference_mem_mentions hr h))

namespace Graph

/-! ## Names and numbers of types -/

section Names

variable {table : NameTable} {classes : List ClassRecord} {name : String}

/-- The number of a name that is in the table is the number of a type. -/
theorem idOf_lt_size (h : name ∈ table.names) :
    table.idOf name < (build table classes).types.size := by
  rw [size_types_build]
  exact List.idxOf_lt_length_iff.2 h

/-- The type at a number bears the name with that number. -/
theorem map_name_types_build (table : NameTable) (classes : List ClassRecord) (id : TypeId) :
    (build table classes).types[id]?.map TypeNode.name = table.names[id]? := by
  rw [getElem?_types_build, Option.map_map]
  have hname : (TypeNode.name ∘ fun name =>
      { Link.openNode table classes id name with
        subtypes := (Link.below table classes)[id]?.getD [] }) = fun name => name :=
    funext fun name => Link.name_typeNode table _ _ id name
  rw [hname, Option.map_id']

/-- Names can be read back from their numbers. -/
theorem typeNames_map_idOf {list : List String} (h : ∀ name ∈ list, name ∈ table.names) :
    (build table classes).typeNames (list.map table.idOf) = list.map some := by
  rw [typeNames, List.map_map]
  apply List.map_congr_left
  intro name hname
  rw [Function.comp_apply, map_name_types_build, NameTable.getElem?_idOf (h name hname)]

theorem typeNames_idOf (h : name ∈ table.names) :
    (build table classes).typeNames [table.idOf name] = [some name] := by
  have hall : ∀ other ∈ [name], other ∈ table.names := by
    intro other hother
    rw [List.mem_singleton.1 hother]
    exact h
  exact typeNames_map_idOf hall

end Names

/-! ## Tables that number what is mentioned -/

/-- Records of different names, and a table that numbers each name they mention once. -/
structure Linkable (table : NameTable) (classes : List ClassRecord) : Prop where
  nodup : table.names.Nodup
  distinct : (classes.map ClassRecord.name).Nodup
  mentioned : ∀ name ∈ mentions classes, name ∈ table.names

/-- A table into which the mentioned names are entered is one for the records. -/
theorem linkable_insertAll {names : List String} {classes : List ClassRecord}
    (hdistinct : (classes.map ClassRecord.name).Nodup) :
    Linkable ((NameTable.ofList names).insertAll (mentions classes)) classes where
  nodup := NameTable.nodup_insertAll _ _ (NameTable.nodup_ofList names)
  distinct := hdistinct
  mentioned _ hname := (NameTable.mem_insertAll _ _).2 (Or.inr hname)

/-- A linked graph is built from the records that were kept, on a table for them. -/
theorem linkable_of_link {names : List String} {policy : DuplicatePolicy}
    {classes : List ClassRecord} {g : Graph}
    (h : link (NameTable.ofList names) policy classes = .ok g) :
    ∃ table kept, ClassRecord.dedupe policy classes = .ok kept ∧ g = build table kept ∧
      Linkable table kept := by
  obtain ⟨kept, hkept, hg⟩ := link_eq_ok_iff.1 h
  exact ⟨_, kept, hkept, hg, linkable_insertAll (dedupe_nodup hkept)⟩

namespace Linkable

variable {table : NameTable} {classes : List ClassRecord} (L : Linkable table classes)
  {c : ClassRecord} {name : String}
include L

theorem rootName_mem : rootName ∈ table.names := L.mentioned _ rootName_mem_mentions

theorem mem_of_class (hc : c ∈ classes) (h : name ∈ c.mentions) : name ∈ table.names :=
  L.mentioned _ (mem_mentions_of_class hc h)

theorem mem_of_reference {r : MemberReference} (hr : r ∈ references classes)
    (h : name ∈ referenceMentions r) : name ∈ table.names :=
  L.mentioned _ (mem_mentions_of_reference hr h)

end Linkable

end Graph

end TypeAtlas
