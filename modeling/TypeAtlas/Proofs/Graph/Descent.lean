import TypeAtlas.Proofs.Graph.Nearest
import TypeAtlas.Proofs.Graph.WellFormed

/-!
# Walking up and walking down

A linked graph lists below each type the types that extend it directly, in the order of their
numbers (`Linkable.mem_subClasses_iff`, `Linkable.pairwise_subClasses`), so the walk down from a
type visits every other type from which edges lead up to it (`Linkable.mem_allSubClasses_iff`). The
walks up follow the superclasses of a type and the interfaces of these, but not the superclasses of
interfaces. Where interfaces lie directly below the root, as class files ask (`Rooted`), that makes
no difference: assignability, the walk down and the edges agree (`walks_agree`).
-/

set_option autoImplicit false

namespace TypeAtlas.Graph

/-! ## Down -/

section Build

variable {table : NameTable} {classes : List ClassRecord}

/-- Below a type stand the numbers of the nodes with an edge to it, in the order of the nodes. -/
theorem below_eq {i : TypeId} (h : i < table.names.length) :
    (Link.below table classes)[i]?.getD [] =
      (((numbered 0 table.names).map fun entry =>
        Link.openNode table classes entry.1 entry.2).filter fun node =>
          i ∈ node.supertype.toList ++ node.interfaces).map TypeNode.id := by
  have hlt : i < ((numbered 0 table.names).map fun entry =>
      Link.openNode table classes entry.1 entry.2).length := by
    simpa [numbered, numbersFor] using h
  rw [Link.below, getElem?_distribute hlt, Option.getD_some, bucket_flatMap]
  -- a node puts itself once into the bucket of each type above it
  have hedges : ∀ node : TypeNode, bucket (Link.upwardEdges node) i =
      if i ∈ node.supertype.toList ++ node.interfaces then [node.id] else [] := by
    intro node
    rw [Link.upwardEdges, bucket_map_const (nodup_distinct _)]
    simp only [mem_distinct]
  simp only [hedges]
  induction (numbered 0 table.names).map fun entry =>
      Link.openNode table classes entry.1 entry.2 with
  | nil => rfl
  | cons node rest ih =>
    rw [List.flatMap_cons, ih, List.filter_cons]
    by_cases hmem : i ∈ node.supertype.toList ++ node.interfaces
    · rw [if_pos hmem, if_pos (decide_eq_true hmem), List.map_cons]
      rfl
    · rw [if_neg hmem, if_neg (by simpa using hmem)]
      rfl

theorem subClasses_build (i : TypeId) :
    (build table classes).subClasses i = if i < table.names.length then
      (Link.below table classes)[i]?.getD [] else [] := by
  unfold subClasses
  rw [getElem?_types_build]
  by_cases h : i < table.names.length
  · rw [if_pos h, List.getElem?_eq_getElem h]
    rfl
  · rw [if_neg h, List.getElem?_eq_none (Nat.le_of_not_lt h)]
    rfl

namespace Linkable

variable (L : Linkable table classes)
include L

theorem closed : (build table classes).Closed := L.wellFormed.closed

omit L in
/-- The types directly below a type are listed in the order of their numbers, each once. -/
theorem pairwise_subClasses (i : TypeId) :
    ((build table classes).subClasses i).Pairwise (· < ·) := by
  rw [subClasses_build]
  by_cases h : i < table.names.length
  · rw [if_pos h, below_eq h]
    have hids : ((numbered 0 table.names).map fun entry =>
        Link.openNode table classes entry.1 entry.2).map TypeNode.id =
          List.range' 0 table.names.length := by
      rw [List.map_map, ← map_fst_numbered]
      exact List.map_congr_left fun entry _ => Link.id_typeNode table _ _ _ _
    have hsub := (List.filter_sublist (l := (numbered 0 table.names).map fun entry =>
      Link.openNode table classes entry.1 entry.2)
        (p := fun node => i ∈ node.supertype.toList ++ node.interfaces)).map TypeNode.id
    rw [hids] at hsub
    exact List.Pairwise.sublist hsub List.pairwise_lt_range'
  · rw [if_neg h]
    exact List.Pairwise.nil

/-- Directly below a type lie the types that extend it. -/
theorem mem_subClasses_iff {a b : TypeId} :
    a ∈ (build table classes).subClasses b ↔ (build table classes).Extends a b := by
  have hnode : ∀ {node}, (build table classes).types[a]? = some node →
      ((build table classes).Extends a b ↔ b ∈ node.supertype.toList ++ node.interfaces) :=
    fun h => extends_iff_of_types h
  constructor
  · intro h
    rw [subClasses_build] at h
    by_cases hlt : b < table.names.length
    · rw [if_pos hlt, below_eq hlt] at h
      obtain ⟨node, hmem, hid⟩ := List.mem_map.1 h
      obtain ⟨hmem, habove⟩ := List.mem_filter.1 hmem
      obtain ⟨j, hj⟩ := List.getElem?_of_mem hmem
      rw [List.getElem?_map, getElem?_numbered] at hj
      obtain ⟨entry, hentry, rfl⟩ := Option.map_eq_some_iff.1 hj
      obtain ⟨name, hname, rfl⟩ := Option.map_eq_some_iff.1 hentry
      have hja : j = a := (Link.id_typeNode table _ _ j name).symm.trans hid
      subst hja
      have hget : (build table classes).types[j]? = some { Link.openNode table classes j name with
          subtypes := (Link.below table classes)[j]?.getD [] } := by
        rw [getElem?_types_build, hname, Option.map_some]
      exact (hnode hget).2 (of_decide_eq_true habove)
    · rw [if_neg hlt] at h
      exact absurd h List.not_mem_nil
  · intro h
    have hlt : b < table.names.length := by
      have hsize : (build table classes).types.size = table.names.length := size_types_build
      rw [← hsize]
      exact L.closed.lt_of_extends h
    obtain ⟨node, hget⟩ := exists_node_of_extends h
    have habove := (hnode hget).1 h
    rw [getElem?_types_build] at hget
    obtain ⟨name, hname, rfl⟩ := Option.map_eq_some_iff.1 hget
    rw [subClasses_build, if_pos hlt, below_eq hlt]
    refine List.mem_map.2 ⟨Link.openNode table classes a name, List.mem_filter.2 ⟨?_, ?_⟩, ?_⟩
    · refine List.mem_of_getElem? (i := a) ?_
      rw [List.getElem?_map, getElem?_numbered, hname]
      rfl
    · exact decide_eq_true habove
    · exact Link.id_typeNode table _ _ a name

/-- The walk down from a type visits the other types from which edges lead up to it. -/
theorem mem_allSubClasses_iff {a b : TypeId} :
    a ∈ (build table classes).allSubClasses b ↔
      a ≠ b ∧ Relation.ReflTransGen (build table classes).Extends a b := by
  have hadmits : ∀ {x}, x < (build table classes).typeCount → x ≠ b →
      Walk.Admits (build table classes).typeCount (fun _ => false) [b] x := by
    intro x hlt hne
    exact ⟨hlt, fun hmem => hne (List.mem_singleton.1 hmem), rfl⟩
  constructor
  · intro h
    have hne : a ≠ b := fun heq =>
      (Walk.admits_of_mem_breadthFirst h).2.1 (List.mem_singleton.2 heq)
    refine ⟨hne, ?_⟩
    obtain ⟨q, hq, -, hreach⟩ := Walk.exists_reach_of_mem_breadthFirst h
    -- each step down is an edge up
    have hup : Relation.ReflTransGen (build table classes).Extends a q := by
      apply Relation.ReflTransGen.swap
      refine Relation.ReflTransGen.mono (fun x y hxy => ?_) _ _ hreach
      exact L.mem_subClasses_iff.1 hxy.1
    exact hup.tail (L.mem_subClasses_iff.1 hq)
  · rintro ⟨hne, hup⟩
    -- from the upper end: the first edge into `b` starts the walk, each further one extends it
    induction hup using Relation.ReflTransGen.head_induction_on with
    | refl => exact absurd rfl hne
    | head hstep _ ih =>
      rename_i x y _
      have hx := hadmits hstep.lt_typeCount hne
      by_cases hy : y = b
      · subst hy
        exact Walk.breadthFirst_closed.1 x (L.mem_subClasses_iff.2 hstep) hx
      · exact Walk.breadthFirst_closed.2 y (ih hy) x ⟨L.mem_subClasses_iff.2 hstep, hx⟩

end Linkable

/-- Primitive types extend nothing. -/
theorem not_extends_of_primitive {a b : TypeId} {node : TypeNode}
    (h : (build table classes).types[a]? = some node) (hprimitive : node.isPrimitive = true) :
    ¬ (build table classes).Extends a b := by
  rw [extends_iff_of_types h]
  rw [TypeNode.isPrimitive, beq_iff_eq] at hprimitive
  rcases types_build_cases h with ⟨p, -, -, rfl⟩ | ⟨name, -, -, rfl⟩
  -- a declared type is not primitive
  · have hkind : TypeKind.ofClassKind p.record.kind = .primitive := hprimitive
    cases hrecord : p.record.kind <;> rw [hrecord] at hkind <;> cases hkind
  · simp only [Link.stubNode] at hprimitive ⊢
    rw [if_pos (Or.inr hprimitive), List.append_nil]
    exact List.not_mem_nil

end Build

/-! ## Up -/

/-- The root lies above all types and below none, and interfaces lie directly below it. -/
structure Rooted (g : Graph) : Prop where
  supertype : g.supertype? g.root = none
  interfaces : g.interfaces g.root = []
  ofInterface : ∀ a, ∀ b ∈ g.interfaces a, g.supertype? b = some g.root
  above : ∀ a node, g.types[a]? = some node → a ≠ g.root → node.isPrimitive = false →
    g.root ∈ g.superClasses a

section Upward

variable {g : Graph} {a b c : TypeId}

/-- With a type, its superclass is the start of a chain or in it. -/
theorem superClasses_closed (hclosed : g.Closed) (h : b = a ∨ b ∈ g.superClasses a)
    (hnext : g.supertype? b = some c) : c = a ∨ c ∈ g.superClasses a := by
  have hlt := hclosed.lt_of_extends (Or.inl hnext)
  have hchain : c ∈ [a] ∨ c ∈ g.superClasses a := by
    rcases h with rfl | h
    · exact Walk.chain_closed.1 c hnext hlt
    · exact Walk.chain_closed.2 b h c hnext hlt
  exact hchain.imp_left List.mem_singleton.1

/-- With a superclass, the interfaces that it names are among those of a type. -/
theorem mem_allInterfaces_of_mem_superClasses (h : b ∈ g.superClasses a)
    (hstep : c ∈ g.interfaces b) (hlt : c < g.typeCount) (hne : c ≠ a) :
    c ∈ g.allInterfaces a := by
  have hstart : c ∈ g.startInterfaces a :=
    List.mem_append_right _ (List.mem_flatMap.2 ⟨b, h, hstep⟩)
  refine Walk.breadthFirst_closed.1 c hstart ⟨hlt, List.not_mem_nil, ?_⟩
  exact beq_eq_false_iff_ne.2 hne

/-- What is listed among the interfaces of a type is named as an interface. -/
theorem exists_names_of_mem_allInterfaces (h : b ∈ g.allInterfaces a) :
    ∃ namer, b ∈ g.interfaces namer := by
  obtain ⟨q, hq, -, hreach⟩ := Walk.exists_reach_of_mem_breadthFirst h
  rcases Relation.ReflTransGen.cases_tail hreach with rfl | ⟨namer, -, hstep⟩
  · rcases List.mem_append.1 hq with hq | hq
    · exact ⟨a, hq⟩
    · obtain ⟨superclass, -, hq⟩ := List.mem_flatMap.1 hq
      exact ⟨superclass, hq⟩
  · exact ⟨namer, hstep.1⟩

theorem mem_allSupertypes_iff :
    b ∈ g.allSupertypes a ↔ b ∈ g.superClasses a ∨ b ∈ g.allInterfaces a := by
  constructor
  · intro h
    rcases List.mem_append.1 h with h | h
    · exact Or.inl h
    · exact Or.inr (List.mem_filter.1 h).1
  · rintro (h | h)
    · exact mem_allSupertypes_of_mem_superClasses h
    · exact mem_allSupertypes_of_mem_allInterfaces h

/-- The walks up from a type come to all types that edges lead to, if interfaces lie directly below
the root and the root lies above the type. -/
theorem mem_allSupertypes_of_reflTransGen (hclosed : g.Closed) (hrooted : g.Rooted)
    (habove : g.root ∈ g.superClasses a) (h : Relation.ReflTransGen g.Extends a b) :
    b = a ∨ b ∈ g.allSupertypes a := by
  induction h with
  | refl => exact Or.inl rfl
  | tail _ hstep ih =>
    rename_i x y _
    have hlt := hclosed.lt_of_extends hstep
    by_cases hne : y = a
    · exact Or.inl hne
    refine Or.inr (mem_allSupertypes_iff.2 ?_)
    rw [mem_allSupertypes_iff] at ih
    rcases hstep with hsuper | hinterface
    · rcases ih with rfl | hx | hx
      · exact Or.inl ((superClasses_closed hclosed (Or.inl rfl) hsuper).resolve_left hne)
      · exact Or.inl ((superClasses_closed hclosed (Or.inr hx) hsuper).resolve_left hne)
      -- the superclass of an interface is the root
      · obtain ⟨namer, hnamer⟩ := exists_names_of_mem_allInterfaces hx
        rw [hrooted.ofInterface namer x hnamer] at hsuper
        cases hsuper
        exact Or.inl habove
    · rcases ih with rfl | hx | hx
      · exact Or.inr (mem_allInterfaces_of_mem_interfaces hinterface hlt hne)
      · exact Or.inr (mem_allInterfaces_of_mem_superClasses hx hinterface hlt hne)
      · exact Or.inr (mem_allInterfaces_of_step hx hinterface hlt hne)

/-- Values of a type are values of the types that edges lead to, and of no others. -/
theorem isAssignableTo_iff_reflTransGen (hclosed : g.Closed) (hrooted : g.Rooted)
    (hprimitive : ∀ node, g.types[a]? = some node → node.isPrimitive = true →
      ∀ b, ¬ g.Extends a b) :
    g.isAssignableTo a b = true ↔ Relation.ReflTransGen g.Extends a b := by
  rw [isAssignableTo_iff]
  constructor
  · rintro (rfl | h)
    · exact .refl
    · exact (transGen_of_mem_allSupertypes h).to_reflTransGen
  · intro h
    by_cases hout : ∃ c, g.Extends a c
    -- a type with an edge is neither the root nor primitive
    · obtain ⟨c, hc⟩ := hout
      obtain ⟨node, hnode⟩ := exists_node_of_extends hc
      have hroot : a ≠ g.root := by
        rintro rfl
        rcases hc with hc | hc
        · rw [hrooted.supertype] at hc
          cases hc
        · rw [hrooted.interfaces] at hc
          exact List.not_mem_nil hc
      have hnot : node.isPrimitive = false := by
        cases hcase : node.isPrimitive with
        | false => rfl
        | true => exact absurd hc (hprimitive node hnode hcase c)
      have habove := hrooted.above a node hnode hroot hnot
      exact (mem_allSupertypes_of_reflTransGen hclosed hrooted habove h).imp_left Eq.symm
    · rcases Relation.ReflTransGen.cases_head h with rfl | ⟨c, hc, -⟩
      · exact Or.inl rfl
      · exact absurd ⟨c, hc⟩ hout

end Upward

/-! ## Both ways -/

/-- In a linked graph, the types listed directly below a type are those that extend it, in the
order of their numbers, and what lies above a type has the type below it. If interfaces lie directly
below the root, assignability, the walk down and the edges agree, and assignability is a
preorder. -/
theorem walks_agree {g : Graph} {names : List String} {policy : DuplicatePolicy}
    {classes : List ClassRecord} (hlink : link (NameTable.ofList names) policy classes = .ok g) :
    (∀ S, (g.subClasses S).Pairwise (· < ·) ∧
      ∀ T, T ∈ g.subClasses S ↔ g.supertype? T = some S ∨ S ∈ g.interfaces T) ∧
    (∀ T S, T ≠ S → S ∈ g.allSupertypes T → T ∈ g.allSubClasses S) ∧
    (g.Rooted →
      (∀ T S, (g.isAssignableTo T S = true ↔ T = S ∨ T ∈ g.allSubClasses S) ∧
        (g.isAssignableTo T S = true ↔ Relation.ReflTransGen g.Extends T S)) ∧
      (∀ T, g.isAssignableTo T T = true) ∧
      ∀ T S R, g.isAssignableTo T S = true → g.isAssignableTo S R = true →
        g.isAssignableTo T R = true) := by
  obtain ⟨table, kept, -, rfl, L⟩ := linkable_of_link hlink
  refine ⟨fun S => ⟨Linkable.pairwise_subClasses S, fun T => L.mem_subClasses_iff⟩, ?_, ?_⟩
  · intro T S hne h
    exact L.mem_allSubClasses_iff.2 ⟨hne, (transGen_of_mem_allSupertypes h).to_reflTransGen⟩
  · intro hrooted
    have hreach : ∀ T S, (build table kept).isAssignableTo T S = true ↔
        Relation.ReflTransGen (build table kept).Extends T S := by
      intro T S
      exact isAssignableTo_iff_reflTransGen L.closed hrooted fun node hnode hprimitive _ =>
        not_extends_of_primitive hnode hprimitive
    refine ⟨fun T S => ⟨?_, hreach T S⟩, fun T => (hreach T T).2 .refl, ?_⟩
    · rw [hreach, L.mem_allSubClasses_iff]
      constructor
      · intro h
        by_cases heq : T = S
        · exact Or.inl heq
        · exact Or.inr ⟨heq, h⟩
      · rintro (rfl | ⟨-, h⟩)
        · exact .refl
        · exact h
    · intro T S R hTS hSR
      exact (hreach T R).2 (((hreach T S).1 hTS).trans ((hreach S R).1 hSR))

/-! ### The diamond -/

/-- The interfaces of the diamond lie directly below the root. -/
theorem rooted_diamond : (build diamondNames diamond).Rooted := by
  have hcount : (build diamondNames diamond).typeCount = 5 := rfl
  have hinterfaces : ∀ a < 5, ∀ b ∈ (build diamondNames diamond).interfaces a,
      (build diamondNames diamond).supertype? b = some 0 := by
    decide +kernel
  have hsuper : ∀ a < 5, a ≠ 0 →
      (build diamondNames diamond).types[a]?.map TypeNode.isPrimitive = some false →
      (build diamondNames diamond).supertype? a = some 0 := by
    decide +kernel
  refine ⟨by decide +kernel, by decide +kernel, ?_, ?_⟩
  · intro a b hb
    have hedge : (build diamondNames diamond).Extends a b := Or.inr hb
    exact hinterfaces a (hcount ▸ hedge.lt_typeCount) b hb
  · intro a node hnode hne hnot
    have hlt : a < (build diamondNames diamond).typeCount := (Array.getElem?_eq_some_iff.1 hnode).1
    have hnext := hsuper a (hcount ▸ hlt) hne (by rw [hnode, Option.map_some, hnot])
    have hchain : 0 ∈ [a] ∨ 0 ∈ (build diamondNames diamond).superClasses a :=
      Walk.chain_closed.1 0 hnext (by decide)
    exact hchain.resolve_left fun hmem => hne (List.mem_singleton.1 hmem).symm

/-- `C` names `A` and `B`, and `B` names `A`: both lie below `A`, and `C` is assignable to it. -/
theorem walks_agree_diamond :
    link (NameTable.ofList []) .fail diamond = .ok (build diamondNames diamond) ∧
      (build diamondNames diamond).Rooted ∧
      (build diamondNames diamond).subClasses 1 = [2, 3] ∧
      3 ∈ (build diamondNames diamond).allSubClasses 1 ∧
      (build diamondNames diamond).isAssignableTo 3 1 = true := by
  obtain ⟨-, hdown, hrooted⟩ := walks_agree link_diamond
  have habove : 1 ∈ (build diamondNames diamond).allInterfaces 3 :=
    mem_allInterfaces_of_mem_interfaces (by decide +kernel) (by decide +kernel) (by decide)
  have hbelow := hdown 3 1 (by decide) (mem_allSupertypes_of_mem_allInterfaces habove)
  obtain ⟨hassignable, -, -⟩ := hrooted rooted_diamond
  exact ⟨link_diamond, rooted_diamond, by decide +kernel, hbelow,
    (hassignable 3 1).1.2 (Or.inr hbelow)⟩

end TypeAtlas.Graph
