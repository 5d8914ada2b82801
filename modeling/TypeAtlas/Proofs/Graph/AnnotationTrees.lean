import TypeAtlas.Proofs.Graph.Evidence
import TypeAtlas.Proofs.Graph.Registration

/-!
# Annotation trees survive linking

A linked annotation is the same tree as the written one, with each type name exchanged for a number
that stands for the name (`AnnotationMatches`). This holds whether the numbers are looked up in a
table that is complete or are given out on the way through the tree, by a table that grows
(`link`, `linkTree_eq`), and it holds of every annotation in a linked graph.

The types of written trees and of linked trees are collected by two functions of their own, each
passing on the list of what was found so far (`referencedNames`, `collectedTypes`). Of trees that
match they collect matching types, in the same order and as often (`forall₂_collected`).
-/

set_option autoImplicit false

namespace TypeAtlas

variable {τ σ : Type}

/-! ## Matching trees -/

mutual

/-- Two values are the same tree, with matching types in the same places. -/
inductive ValueMatches (R : τ → σ → Prop) : ElementValue τ → ElementValue σ → Prop
  | const (value : ConstValue) : ValueMatches R (.const value) (.const value)
  | enumConst {type : τ} {type' : σ} (h : R type type') (name : String) :
    ValueMatches R (.enumConst type name) (.enumConst type' name)
  | classLiteral {type : τ} {type' : σ} (h : R type type') :
    ValueMatches R (.classLiteral type) (.classLiteral type')
  | nested (descriptor : String) {type : τ} {type' : σ}
    {elements : List (String × ElementValue τ)} {elements' : List (String × ElementValue σ)}
    (h : R type type') (helements : ElementsMatch R elements elements') :
    ValueMatches R (.nested descriptor type elements) (.nested descriptor type' elements')
  | array {values : List (ElementValue τ)} {values' : List (ElementValue σ)}
    (h : ValuesMatch R values values') : ValueMatches R (.array values) (.array values')

/-- Named values have the same names in the same order, and the values match. -/
inductive ElementsMatch (R : τ → σ → Prop) :
    List (String × ElementValue τ) → List (String × ElementValue σ) → Prop
  | nil : ElementsMatch R [] []
  | cons (name : String) {value : ElementValue τ} {value' : ElementValue σ}
    {rest : List (String × ElementValue τ)} {rest' : List (String × ElementValue σ)}
    (h : ValueMatches R value value') (hrest : ElementsMatch R rest rest') :
    ElementsMatch R ((name, value) :: rest) ((name, value') :: rest')

/-- Two lists of values are equally long, and the values match one by one. -/
inductive ValuesMatch (R : τ → σ → Prop) :
    List (ElementValue τ) → List (ElementValue σ) → Prop
  | nil : ValuesMatch R [] []
  | cons {value : ElementValue τ} {value' : ElementValue σ} {rest : List (ElementValue τ)}
    {rest' : List (ElementValue σ)} (h : ValueMatches R value value')
    (hrest : ValuesMatch R rest rest') : ValuesMatch R (value :: rest) (value' :: rest')

end

/-- Two annotations are the same tree, with matching types in the same places. -/
structure AnnotationMatches (R : τ → σ → Prop) (a : AnnotationTree τ) (a' : AnnotationTree σ) :
    Prop where
  descriptor : a'.descriptor = a.descriptor
  type : R a.type a'.type
  elements : ElementsMatch R a.elements a'.elements

section Matches

variable {R : τ → σ → Prop}

mutual

/-- The types of matching values match one by one. -/
theorem ValueMatches.types {value : ElementValue τ} {value' : ElementValue σ}
    (h : ValueMatches R value value') : List.Forall₂ R value.types value'.types := by
  cases h with
  | const value =>
    simp only [ElementValue.types]
    exact .nil
  | enumConst h name =>
    simp only [ElementValue.types]
    exact .cons h .nil
  | classLiteral h =>
    simp only [ElementValue.types]
    exact .cons h .nil
  | nested descriptor h helements =>
    simp only [ElementValue.types]
    exact .cons h helements.types
  | array h =>
    simp only [ElementValue.types]
    exact h.types

theorem ElementsMatch.types {elements : List (String × ElementValue τ)}
    {elements' : List (String × ElementValue σ)} (h : ElementsMatch R elements elements') :
    List.Forall₂ R (ElementValue.typesOfElements elements)
      (ElementValue.typesOfElements elements') := by
  cases h with
  | nil =>
    simp only [ElementValue.typesOfElements]
    exact .nil
  | cons name h hrest =>
    simp only [ElementValue.typesOfElements]
    exact List.rel_append h.types hrest.types

theorem ValuesMatch.types {values : List (ElementValue τ)} {values' : List (ElementValue σ)}
    (h : ValuesMatch R values values') :
    List.Forall₂ R (ElementValue.typesOfValues values) (ElementValue.typesOfValues values') := by
  cases h with
  | nil =>
    simp only [ElementValue.typesOfValues]
    exact .nil
  | cons h hrest =>
    simp only [ElementValue.typesOfValues]
    exact List.rel_append h.types hrest.types

end

/-- The types of matching annotations match one by one. -/
theorem AnnotationMatches.types {a : AnnotationTree τ} {a' : AnnotationTree σ}
    (h : AnnotationMatches R a a') : List.Forall₂ R a.types a'.types :=
  .cons h.type h.elements.types

end Matches

/-! ## Exchanged types -/

section Map

variable {R : τ → σ → Prop} {f k : τ → σ}

mutual

/-- A value matches what it becomes when its types are exchanged for matching ones. -/
theorem valueMatches_map (value : ElementValue τ) (h : ∀ type ∈ value.types, R type (f type)) :
    ValueMatches R value (value.map f) := by
  cases value with
  | const value =>
    simp only [ElementValue.map]
    exact .const value
  | enumConst type name =>
    simp only [ElementValue.types, List.forall_mem_singleton] at h
    simp only [ElementValue.map]
    exact .enumConst h name
  | classLiteral type =>
    simp only [ElementValue.types, List.forall_mem_singleton] at h
    simp only [ElementValue.map]
    exact .classLiteral h
  | nested descriptor type elements =>
    simp only [ElementValue.types, List.forall_mem_cons] at h
    simp only [ElementValue.map]
    exact .nested descriptor h.1 (elementsMatch_map elements h.2)
  | array values =>
    simp only [ElementValue.types] at h
    simp only [ElementValue.map]
    exact .array (valuesMatch_map values h)

theorem elementsMatch_map (elements : List (String × ElementValue τ))
    (h : ∀ type ∈ ElementValue.typesOfElements elements, R type (f type)) :
    ElementsMatch R elements (ElementValue.mapElements f elements) := by
  cases elements with
  | nil =>
    simp only [ElementValue.mapElements]
    exact .nil
  | cons element rest =>
    rcases element with ⟨name, value⟩
    simp only [ElementValue.typesOfElements, List.forall_mem_append] at h
    simp only [ElementValue.mapElements]
    exact .cons name (valueMatches_map value h.1) (elementsMatch_map rest h.2)

theorem valuesMatch_map (values : List (ElementValue τ))
    (h : ∀ type ∈ ElementValue.typesOfValues values, R type (f type)) :
    ValuesMatch R values (ElementValue.mapValues f values) := by
  cases values with
  | nil =>
    simp only [ElementValue.mapValues]
    exact .nil
  | cons value rest =>
    simp only [ElementValue.typesOfValues, List.forall_mem_append] at h
    simp only [ElementValue.mapValues]
    exact .cons (valueMatches_map value h.1) (valuesMatch_map rest h.2)

end

/-- An annotation matches what it becomes when its types are exchanged for matching ones. -/
theorem annotationMatches_map {a : AnnotationTree τ} (h : ∀ type ∈ a.types, R type (f type)) :
    AnnotationMatches R a (a.map f) := by
  rw [AnnotationTree.types, List.forall_mem_cons] at h
  exact ⟨rfl, h.1, elementsMatch_map a.elements h.2⟩

mutual

/-- A value that matches by a function is what the function makes of it. -/
theorem ValueMatches.eq_map {value : ElementValue τ} {value' : ElementValue σ}
    (h : ValueMatches (fun type type' => k type = type') value value') :
    value' = value.map k := by
  cases h with
  | const value => simp only [ElementValue.map]
  | enumConst h name => simp only [ElementValue.map, h]
  | classLiteral h => simp only [ElementValue.map, h]
  | nested descriptor h helements => simp only [ElementValue.map, h, helements.eq_map]
  | array h => simp only [ElementValue.map, h.eq_map]

theorem ElementsMatch.eq_map {elements : List (String × ElementValue τ)}
    {elements' : List (String × ElementValue σ)}
    (h : ElementsMatch (fun type type' => k type = type') elements elements') :
    elements' = ElementValue.mapElements k elements := by
  cases h with
  | nil => simp only [ElementValue.mapElements]
  | cons name h hrest => simp only [ElementValue.mapElements, h.eq_map, hrest.eq_map]

theorem ValuesMatch.eq_map {values : List (ElementValue τ)} {values' : List (ElementValue σ)}
    (h : ValuesMatch (fun type type' => k type = type') values values') :
    values' = ElementValue.mapValues k values := by
  cases h with
  | nil => simp only [ElementValue.mapValues]
  | cons h hrest => simp only [ElementValue.mapValues, h.eq_map, hrest.eq_map]

end

theorem ElementValue.map_congr {value : ElementValue τ}
    (h : ∀ type ∈ value.types, f type = k type) : value.map f = value.map k :=
  (valueMatches_map value h).eq_map.symm

theorem ElementValue.mapElements_congr {elements : List (String × ElementValue τ)}
    (h : ∀ type ∈ typesOfElements elements, f type = k type) :
    mapElements f elements = mapElements k elements :=
  (elementsMatch_map elements h).eq_map.symm

/-- Functions that agree on the types of an annotation make the same of it. -/
theorem AnnotationTree.map_congr {a : AnnotationTree τ} (h : ∀ type ∈ a.types, f type = k type) :
    a.map f = a.map k := by
  rw [types, List.forall_mem_cons] at h
  rw [map, map, h.1, ElementValue.mapElements_congr h.2]

end Map

/-! ## Linking with a growing table -/

namespace NameTable

mutual

/-- Links a value and registers its types on the way. -/
def linkValue (table : NameTable) : ElementValue String → ElementValue TypeId × NameTable
  | .const value => (.const value, table)
  | .enumConst type name =>
    let (id, table) := table.refer type
    (.enumConst id name, table)
  | .classLiteral type =>
    let (id, table) := table.refer type
    (.classLiteral id, table)
  | .nested descriptor type elements =>
    let (id, table) := table.refer type
    let (elements, table) := table.linkElements elements
    (.nested descriptor id elements, table)
  | .array values =>
    let (values, table) := table.linkValues values
    (.array values, table)

/-- Links named values one after another. -/
def linkElements (table : NameTable) :
    List (String × ElementValue String) → List (String × ElementValue TypeId) × NameTable
  | [] => ([], table)
  | (name, value) :: rest =>
    let (value, table) := table.linkValue value
    let (rest, table) := table.linkElements rest
    ((name, value) :: rest, table)

/-- Links the values of a list one after another. -/
def linkValues (table : NameTable) :
    List (ElementValue String) → List (ElementValue TypeId) × NameTable
  | [] => ([], table)
  | value :: rest =>
    let (value, table) := table.linkValue value
    let (rest, table) := table.linkValues rest
    (value :: rest, table)

end

/-- Links an annotation: its type first, then its values in order. -/
def linkTree (table : NameTable) (a : AnnotationTree String) :
    AnnotationTree TypeId × NameTable :=
  let (id, table) := table.refer a.type
  let (elements, table) := table.linkElements a.elements
  (⟨a.descriptor, id, elements⟩, table)

/-- A value linked in the middle of others has the numbers that its types have in the end. -/
theorem map_entered_append (table : NameTable) {value : ElementValue String} (more : List String) :
    value.map (table.entered (value.types ++ more)).idOf =
      value.map (table.entered value.types).idOf :=
  ElementValue.map_congr fun _ htype => idOf_entered_append table htype more

mutual

/-- Linking a value registers its types in their order, and exchanges each for its number. -/
theorem linkValue_eq (table : NameTable) (value : ElementValue String) :
    table.linkValue value =
      (value.map (table.entered value.types).idOf, table.entered value.types) := by
  cases value with
  | const value => simp only [linkValue, ElementValue.map, ElementValue.types, entered_nil]
  | enumConst type name => simp only [linkValue, refer_eq, ElementValue.map, ElementValue.types]
  | classLiteral type => simp only [linkValue, refer_eq, ElementValue.map, ElementValue.types]
  | nested descriptor type elements =>
    have htype := idOf_entered_append table (List.mem_singleton_self type)
      (ElementValue.typesOfElements elements)
    simp only [linkValue, refer_eq, linkElements_eq _ elements, ElementValue.map,
      ElementValue.types, entered_entered, List.singleton_append] at htype ⊢
    rw [htype]
  | array values =>
    simp only [linkValue, linkValues_eq _ values, ElementValue.map, ElementValue.types]

theorem linkElements_eq (table : NameTable) (elements : List (String × ElementValue String)) :
    table.linkElements elements =
      (ElementValue.mapElements (table.entered (ElementValue.typesOfElements elements)).idOf
        elements, table.entered (ElementValue.typesOfElements elements)) := by
  cases elements with
  | nil => simp only [linkElements, ElementValue.mapElements, ElementValue.typesOfElements,
      entered_nil]
  | cons element rest =>
    rcases element with ⟨name, value⟩
    simp only [linkElements, linkValue_eq _ value, linkElements_eq _ rest,
      ElementValue.mapElements, ElementValue.typesOfElements, entered_entered, map_entered_append]

theorem linkValues_eq (table : NameTable) (values : List (ElementValue String)) :
    table.linkValues values =
      (ElementValue.mapValues (table.entered (ElementValue.typesOfValues values)).idOf values,
        table.entered (ElementValue.typesOfValues values)) := by
  cases values with
  | nil => simp only [linkValues, ElementValue.mapValues, ElementValue.typesOfValues, entered_nil]
  | cons value rest =>
    simp only [linkValues, linkValue_eq _ value, linkValues_eq _ rest, ElementValue.mapValues,
      ElementValue.typesOfValues, entered_entered, map_entered_append]

end

/-- Linking an annotation registers its types in their order, and exchanges each for its number. -/
theorem linkTree_eq (table : NameTable) (a : AnnotationTree String) :
    table.linkTree a = (a.map (table.entered a.types).idOf, table.entered a.types) := by
  have htype := idOf_entered_append table (List.mem_singleton_self a.type)
    (ElementValue.typesOfElements a.elements)
  simp only [linkTree, refer_eq, linkElements_eq, AnnotationTree.map, AnnotationTree.types,
    entered_entered, List.singleton_append] at htype ⊢
  rw [htype]

end NameTable

/-! ## Collecting types -/

namespace ElementValue

mutual

/-- Adds the type names in a value behind those found so far. A nested annotation is asked for its
own list. -/
def collectNames (found : List String) : ElementValue String → List String
  | .const _ => found
  | .enumConst type _ => found ++ [type]
  | .classLiteral type => found ++ [type]
  | .nested _ type elements => found ++ collectNamesOfElements [type] elements
  | .array values => collectNamesOfValues found values

/-- Adds the type names in named values, one value after another. -/
def collectNamesOfElements (found : List String) :
    List (String × ElementValue String) → List String
  | [] => found
  | (_, value) :: rest => collectNamesOfElements (value.collectNames found) rest

/-- Adds the type names in a list of values, one value after another. -/
def collectNamesOfValues (found : List String) : List (ElementValue String) → List String
  | [] => found
  | value :: rest => collectNamesOfValues (value.collectNames found) rest

end

mutual

/-- Adds the types in a linked value behind those found so far. A nested annotation adds its type
and then what its values add. -/
def collectTypes (found : List TypeId) : ElementValue TypeId → List TypeId
  | .enumConst type _ | .classLiteral type => found ++ [type]
  | .nested _ type elements => collectTypesOfElements (found ++ [type]) elements
  | .array values => collectTypesOfValues found values
  | _ => found

/-- Adds the types in named values, one value after another. -/
def collectTypesOfElements (found : List TypeId) :
    List (String × ElementValue TypeId) → List TypeId
  | [] => found
  | (_, value) :: rest => collectTypesOfElements (value.collectTypes found) rest

/-- Adds the types in a list of values, one value after another. -/
def collectTypesOfValues (found : List TypeId) : List (ElementValue TypeId) → List TypeId
  | [] => found
  | value :: rest => collectTypesOfValues (value.collectTypes found) rest

end

mutual

theorem collectNames_eq (found : List String) (value : ElementValue String) :
    value.collectNames found = found ++ value.types := by
  cases value with
  | const value => simp only [collectNames, types, List.append_nil]
  | enumConst type name => simp only [collectNames, types]
  | classLiteral type => simp only [collectNames, types]
  | nested descriptor type elements =>
    simp only [collectNames, types, collectNamesOfElements_eq _ elements, List.singleton_append]
  | array values => simp only [collectNames, types, collectNamesOfValues_eq _ values]

theorem collectNamesOfElements_eq (found : List String)
    (elements : List (String × ElementValue String)) :
    collectNamesOfElements found elements = found ++ typesOfElements elements := by
  cases elements with
  | nil => simp only [collectNamesOfElements, typesOfElements, List.append_nil]
  | cons element rest =>
    rcases element with ⟨name, value⟩
    simp only [collectNamesOfElements, typesOfElements, collectNames_eq _ value,
      collectNamesOfElements_eq _ rest, List.append_assoc]

theorem collectNamesOfValues_eq (found : List String) (values : List (ElementValue String)) :
    collectNamesOfValues found values = found ++ typesOfValues values := by
  cases values with
  | nil => simp only [collectNamesOfValues, typesOfValues, List.append_nil]
  | cons value rest =>
    simp only [collectNamesOfValues, typesOfValues, collectNames_eq _ value,
      collectNamesOfValues_eq _ rest, List.append_assoc]

end

mutual

theorem collectTypes_eq (found : List TypeId) (value : ElementValue TypeId) :
    value.collectTypes found = found ++ value.types := by
  cases value with
  | const value => simp only [collectTypes, types, List.append_nil]
  | enumConst type name => simp only [collectTypes, types]
  | classLiteral type => simp only [collectTypes, types]
  | nested descriptor type elements =>
    simp only [collectTypes, types, collectTypesOfElements_eq _ elements, List.append_assoc,
      List.singleton_append]
  | array values => simp only [collectTypes, types, collectTypesOfValues_eq _ values]

theorem collectTypesOfElements_eq (found : List TypeId)
    (elements : List (String × ElementValue TypeId)) :
    collectTypesOfElements found elements = found ++ typesOfElements elements := by
  cases elements with
  | nil => simp only [collectTypesOfElements, typesOfElements, List.append_nil]
  | cons element rest =>
    rcases element with ⟨name, value⟩
    simp only [collectTypesOfElements, typesOfElements, collectTypes_eq _ value,
      collectTypesOfElements_eq _ rest, List.append_assoc]

theorem collectTypesOfValues_eq (found : List TypeId) (values : List (ElementValue TypeId)) :
    collectTypesOfValues found values = found ++ typesOfValues values := by
  cases values with
  | nil => simp only [collectTypesOfValues, typesOfValues, List.append_nil]
  | cons value rest =>
    simp only [collectTypesOfValues, typesOfValues, collectTypes_eq _ value,
      collectTypesOfValues_eq _ rest, List.append_assoc]

end

end ElementValue

namespace AnnotationTree

/-- The type names that a written annotation refers to: its own, then those in its values. -/
def referencedNames (a : AnnotationTree String) : List String :=
  ElementValue.collectNamesOfElements [a.type] a.elements

/-- The types that a linked annotation refers to: its own, then those in its values. -/
def collectedTypes (a : AnnotationTree TypeId) : List TypeId :=
  ElementValue.collectTypesOfElements [a.type] a.elements

theorem referencedNames_eq (a : AnnotationTree String) : a.referencedNames = a.types :=
  ElementValue.collectNamesOfElements_eq [a.type] a.elements

theorem collectedTypes_eq (a : AnnotationTree TypeId) : a.collectedTypes = a.types :=
  ElementValue.collectTypesOfElements_eq [a.type] a.elements

end AnnotationTree

/-- Matching annotations refer to matching types, in the same order and as often. -/
theorem forall₂_collected {R : String → TypeId → Prop} {a : AnnotationTree String}
    {a' : AnnotationTree TypeId} (h : AnnotationMatches R a a') :
    List.Forall₂ R a.referencedNames a'.collectedTypes := by
  rw [a.referencedNames_eq, a'.collectedTypes_eq]
  exact h.types

/-! ## Linked annotations -/

/-- A linked annotation keeps what a written one says: it is the same tree, with a number that
stands for the name in place of each type name, and the numbers that are collected from it stand for
the names that the written one refers to. -/
structure Keeps (nameOf : TypeId → Option String) (a : AnnotationTree String)
    (linked : AnnotationTree TypeId) : Prop where
  tree : AnnotationMatches (fun name id => nameOf id = some name) a linked
  collected : linked.collectedTypes.map nameOf = a.referencedNames.map some

theorem keeps_map {nameOf : TypeId → Option String} {idOf : String → TypeId}
    {a : AnnotationTree String} (h : ∀ name ∈ a.types, nameOf (idOf name) = some name) :
    Keeps nameOf a (a.map idOf) where
  tree := annotationMatches_map h
  collected := by
    have hmatches := forall₂_collected
      (annotationMatches_map (R := fun name id => nameOf id = some name) h)
    rw [← List.forall₂_eq_eq_eq, List.forall₂_map_left_iff, List.forall₂_map_right_iff]
    exact hmatches.flip

namespace Graph

/-- An annotation in a graph keeps what a written one says, and the dependencies that it gives rise
to are on the types that the written one refers to. -/
structure KeepsTree (g : Graph) (a : AnnotationNode) (written : AnnotationTree String) :
    Prop where
  keeps : Keeps (fun id => g.types[id]?.map TypeNode.name) written a.tree
  mentions : g.annotationMentions a.id =
    a.tree.collectedTypes.map fun type => (type, Evidence.annotated a.id)

section Build

variable {table : NameTable} {classes : List ClassRecord}

/-- At the numbers of a block of annotations stand the annotations of the block. -/
theorem filterMap_numbersFor {first : AnnotationId} {owner : AnnotationOwner}
    {annotations : List (AnnotationTree String)}
    (hnodes : ∀ a ∈ Link.annotationNodes table first owner annotations,
      a ∈ Link.allAnnotations table classes) :
    (numbersFor first annotations).filterMap ((build table classes).annotations[·]?) =
      Link.annotationNodes table first owner annotations := by
  apply filterMap_of_map_eq
  rw [numbersFor, ← Link.map_id_annotationNodes table first owner annotations, List.map_map]
  apply List.map_congr_left
  intro a ha
  rw [Function.comp_apply, annotations_build, List.getElem?_toArray]
  exact getElem?_of_ids (Link.map_id_allAnnotations table classes) (hnodes a ha)

/-- The annotations that stand in a block keep what was written there. -/
theorem forall₂_keepsTree {first : AnnotationId} {owner : AnnotationOwner}
    {annotations : List (AnnotationTree String)}
    (hnodes : ∀ a ∈ Link.annotationNodes table first owner annotations,
      a ∈ Link.allAnnotations table classes)
    (hnames : ∀ a ∈ annotations, ∀ name ∈ a.types, name ∈ table.names) :
    List.Forall₂ (build table classes).KeepsTree
      (Link.annotationNodes table first owner annotations) annotations := by
  have hentries : List.Forall₂ (build table classes).KeepsTree
      (Link.annotationNodes table first owner annotations)
      ((numbered first annotations).map Prod.snd) := by
    rw [Link.annotationNodes, List.forall₂_map_left_iff, List.forall₂_map_right_iff,
      List.forall₂_same]
    rintro ⟨id, written⟩ hentry
    have hwritten : written ∈ annotations := (List.of_mem_zip hentry).2
    constructor
    · apply keeps_map
      intro name hname
      rw [map_name_types_build]
      exact NameTable.getElem?_idOf (hnames written hwritten name hname)
    · have hnode := hnodes _ (List.mem_map_of_mem hentry)
      have hget : (build table classes).annotations[id]? =
          some ⟨id, owner, written.map table.idOf⟩ := by
        rw [annotations_build, List.getElem?_toArray]
        exact getElem?_of_ids (Link.map_id_allAnnotations table classes) hnode
      simp only [annotationMentions, hget, AnnotationTree.collectedTypes_eq]
  rwa [map_snd_numbered] at hentries

/-- A class in a graph, with its members in the order of declaration, keeps the annotations that
were written on it and on them. -/
structure KeepsAnnotations (g : Graph) (node : TypeNode) (c : ClassRecord) : Prop where
  own : List.Forall₂ g.KeepsTree (g.annotationsOf (.type node.id)) c.annotations
  members : List.Forall₂
    (fun m annotations =>
      List.Forall₂ g.KeepsTree (g.annotationsOf (.member m.id)) annotations)
    (g.membersOf node.id) (c.fields.map (·.annotations) ++ c.codeUnits.map (·.annotations))

theorem map_annotations_declaredMembers (c : ClassRecord) :
    c.declaredMembers.map (·.annotations) =
      c.fields.map (·.annotations) ++ c.codeUnits.map (·.annotations) := by
  rw [ClassRecord.declaredMembers, List.map_append, List.map_map, List.map_map]
  rfl

namespace Linkable

variable (L : Linkable table classes) {p : PlacedClass} (hp : p ∈ placeClasses {} classes)
include L hp

/-- The annotations on a class are those of its block. -/
theorem forall₂_annotationsOf_type :
    List.Forall₂ (build table classes).KeepsTree
      ((build table classes).annotationsOf (.type (table.idOf p.record.name)))
      p.record.annotations := by
  have hnodes : ∀ a ∈ Link.annotationNodes table p.start.annotations
      (.type (table.idOf p.record.name)) p.record.annotations,
      a ∈ Link.allAnnotations table classes := fun a ha =>
    Link.mem_allAnnotations.2 (Or.inl ⟨p, hp, ha⟩)
  simp only [annotationsOf, L.getElem?_types_placed hp, Option.map_some, Option.getD_some,
    Link.importedNode, filterMap_numbersFor hnodes]
  apply forall₂_keepsTree hnodes
  intro a ha name hname
  exact L.mem_of_class (record_mem_of_placed hp) (ClassRecord.annotation_mem_mentions ha hname)

/-- The annotations on a member are those of its block. -/
theorem forall₂_annotationsOf_member {m : PlacedMember} (hm : m ∈ p.members) :
    List.Forall₂ (build table classes).KeepsTree
      ((build table classes).annotationsOf (.member m.start.members)) m.member.annotations := by
  have hnodes : ∀ a ∈ Link.annotationNodes table m.start.annotations (.member m.start.members)
      m.member.annotations, a ∈ Link.allAnnotations table classes := fun a ha =>
    Link.mem_allAnnotations.2 (Or.inr ⟨m, mem_placedMembers_of_mem hp hm, ha⟩)
  have hget : (build table classes).members[m.start.members]? =
      some (Link.memberNode table p.record m) := by
    rw [getElem?_members_build]
    exact getElem?_of_ids (Link.map_id_allMembers table classes) (Link.memberNode_mem hp hm)
  simp only [annotationsOf, hget, Option.map_some, Option.getD_some, Link.memberNode,
    filterMap_numbersFor hnodes]
  apply forall₂_keepsTree hnodes
  intro a ha name hname
  apply L.mem_of_class (record_mem_of_placed hp)
  apply ClassRecord.member_mem_mentions (member_mem_of_placed hp hm)
  exact DeclaredMember.annotation_mem_mentions ha hname

theorem keepsAnnotations :
    ∃ node, (build table classes).find? p.record.name = some node ∧
      (build table classes).KeepsAnnotations node p.record := by
  have hmembers : (build table classes).membersOf (table.idOf p.record.name) =
      p.members.map (Link.memberNode table p.record) :=
    membersOf_build (NameTable.getElem?_idOf (L.name_mem hp)) (find?_record_of_placed L.distinct hp)
  refine ⟨_, L.find?_placed hp, L.forall₂_annotationsOf_type hp, ?_⟩
  show List.Forall₂ _ ((build table classes).membersOf (table.idOf p.record.name)) _
  rw [hmembers, ← map_annotations_declaredMembers, ← map_member_of_placed hp, List.map_map,
    List.forall₂_map_left_iff, List.forall₂_map_right_iff, List.forall₂_same]
  intro m hm
  exact L.forall₂_annotationsOf_member hp hm

end Linkable

end Build

/-- Annotation trees survive linking, and both collectors agree. Linked with a table that grows on
the way, an annotation is the same tree in which each type name has its number in any table that
goes on from there. In a linked graph, every annotation of a linked class and of its members is kept
so, and the dependencies that it gives rise to are on the types it refers to, in order. -/
theorem annotations_kept :
    (∀ (table : NameTable) (a : AnnotationTree String), ∃ linked table',
      table.linkTree a = (linked, table') ∧ table.names <+: table'.names ∧
        ∀ final : NameTable, table'.names <+: final.names →
          linked = a.map final.idOf ∧ Keeps (final.names[·]?) a linked) ∧
    ∀ names policy classes g, link (NameTable.ofList names) policy classes = .ok g →
      ∃ kept, ClassRecord.dedupe policy classes = .ok kept ∧ ∀ c ∈ kept,
        ∃ node, g.find? c.name = some node ∧ g.KeepsAnnotations node c := by
  constructor
  · intro table a
    refine ⟨_, _, table.linkTree_eq a, table.isPrefix_entered a.types, ?_⟩
    intro final hfinal
    have hids : a.map (table.entered a.types).idOf = a.map final.idOf := by
      apply AnnotationTree.map_congr
      intro name hname
      exact (NameTable.idOf_of_isPrefix hfinal (table.mem_entered hname)).symm
    refine ⟨hids, ?_⟩
    rw [hids]
    apply keeps_map
    intro name hname
    exact NameTable.getElem?_idOf (hfinal.subset (table.mem_entered hname))
  · intro names policy classes g h
    rcases linkable_of_link h with ⟨table, kept, hkept, rfl, L⟩
    refine ⟨kept, hkept, ?_⟩
    intro c hc
    rw [← map_record_placeClasses {} kept] at hc
    rcases List.mem_map.1 hc with ⟨p, hp, rfl⟩
    exact L.keepsAnnotations hp

/-- The annotation of the class holds types in a list and in a nested annotation; all of them are
kept, in the order in which they are written. -/
theorem annotations_kept_mentioningClass :
    link (NameTable.ofList []) .fail [mentioningClass] =
      .ok (build mentionedNames [mentioningClass]) ∧
    (∃ node, (build mentionedNames [mentioningClass]).find? "D" = some node ∧
      (build mentionedNames [mentioningClass]).KeepsAnnotations node mentioningClass) ∧
    mentioningClass.annotations.map AnnotationTree.referencedNames =
      [["Mark", "Level", "Inner", "A[]"]] := by
  rcases annotations_kept.2 [] .fail [mentioningClass] _ link_mentioningClass with
    ⟨kept, hkept, hkeeps⟩
  have hall : ClassRecord.dedupe .fail [mentioningClass] = .ok [mentioningClass] :=
    dedupe_of_nodup (by decide)
  rw [hall] at hkept
  cases hkept
  refine ⟨link_mentioningClass, hkeeps mentioningClass (List.mem_singleton_self _), ?_⟩
  decide

end Graph

end TypeAtlas
