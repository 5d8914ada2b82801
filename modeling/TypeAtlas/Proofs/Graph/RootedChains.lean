import TypeAtlas.Proofs.Graph.Descent

/-!
# Chains that end with the root

If the superclasses that the linked classes state go round in no circle, the root states none and no
class extends a primitive word (`Grounded`), then the chain of superclasses of every other type ends
with the root, whether the type is declared, known by name only, or an array
(`superClasses_end_with_root`). A chain ends where a type has no superclass
(`Walk.next_getLast_chain`), and apart from primitive types only the root has none.
-/

set_option autoImplicit false

namespace TypeAtlas

namespace Walk

/-- Where no node comes back to itself, a chain ends with a node that has no successor. -/
theorem next_getLast_chain {bound : Nat} {next : Nat → Option Nat} {seen : List Nat} {node : Nat}
    (hbound : ∀ a b, next a = some b → b < bound)
    (hacyclic : ∀ a, ¬ Relation.TransGen (fun a b => next a = some b) a a)
    (hseen : ∀ a ∈ seen, Relation.ReflTransGen (fun a b => next a = some b) a node) :
    next ((node :: chain bound next seen node).getLast (List.cons_ne_nil _ _)) = none := by
  fun_induction chain bound next seen node with
  | case1 seen node hnone => exact hnone
  | case2 seen node after hafter hnew _ ih =>
    rw [List.getLast_cons (List.cons_ne_nil _ _)]
    apply ih
    intro a ha
    rcases List.mem_cons.1 ha with rfl | ha
    · exact .refl
    · exact (hseen a ha).tail hafter
  | case3 seen node after hafter hold =>
    -- the successor is in range, so it has been seen, and leads back to itself
    have hmem : after ∈ seen := by_contra fun hnot => hold ⟨hbound node after hafter, hnot⟩
    exact absurd (Relation.TransGen.tail' (hseen after hmem) hafter) (hacyclic after)

end Walk

/-! ## Declared superclasses -/

/-- A class of one name states the other name as that of its superclass. -/
def DeclaresSuperclass (classes : List ClassRecord) (name above : String) : Prop :=
  ∃ c ∈ classes, c.name = name ∧ c.superClass = some above

/-- Going from declared superclass to declared superclass leads into no circle, not above the root
and to no primitive word. -/
structure Grounded (classes : List ClassRecord) : Prop where
  acyclic : ∀ name, ¬ Relation.TransGen (DeclaresSuperclass classes) name name
  root : ∀ c ∈ classes, c.name = rootName → c.superClass = none
  notPrimitive : ∀ c ∈ classes, ∀ above, c.superClass = some above → above ∉ Text.primitiveWords

namespace Graph

section Build

variable {table : NameTable} {classes : List ClassRecord} {a b : TypeId} {node : TypeNode}

theorem supertype?_of_types (h : (build table classes).types[a]? = some node) :
    (build table classes).supertype? a = node.supertype := by
  rw [supertype?, h, Option.bind_some]

/-- Only the root and primitive types have no superclass. -/
theorem eq_root_or_isPrimitive (h : (build table classes).types[a]? = some node)
    (hnone : (build table classes).supertype? a = none) :
    a = (build table classes).root ∨ node.isPrimitive = true := by
  rw [supertype?_of_types h] at hnone
  rcases types_build_cases h with ⟨p, -, -, rfl⟩ | ⟨name, -, -, rfl⟩
  · simp only [Link.importedNode] at hnone
    split at hnone
    · cases hnone
    · by_cases hroot : a = Link.root table
      · exact Or.inl hroot
      · rw [if_neg hroot] at hnone
        cases hnone
  · simp only [Link.stubNode] at hnone
    split at hnone
    · rename_i hcase
      exact hcase.imp_right fun hkind => beq_iff_eq.2 hkind
    · cases hnone

/-- The word behind a primitive type. -/
theorem name_mem_primitiveWords (h : (build table classes).types[a]? = some node)
    (hprimitive : node.isPrimitive = true) :
    ∃ word ∈ Text.primitiveWords, table.names[a]? = some word := by
  rw [TypeNode.isPrimitive, beq_iff_eq] at hprimitive
  rcases types_build_cases h with ⟨p, -, -, rfl⟩ | ⟨name, hname, -, rfl⟩
  · change TypeKind.ofClassKind p.record.kind = .primitive at hprimitive
    cases hrecord : p.record.kind <;> rw [hrecord] at hprimitive <;> cases hprimitive
  · change Link.stubKind (Link.interfaceUses classes) name = .primitive at hprimitive
    refine ⟨name, ?_, hname⟩
    unfold Link.stubKind at hprimitive
    split at hprimitive
    · cases hprimitive
    · split at hprimitive
      · rename_i hword
        exact List.contains_iff_mem.1 hword
      · split at hprimitive <;> cases hprimitive

/-- A superclass is the root, or a class states its name. -/
theorem supertype?_cases (h : (build table classes).supertype? a = some b) :
    b = (build table classes).root ∨
      ∃ name above, table.names[a]? = some name ∧ DeclaresSuperclass classes name above ∧
        b = table.idOf above := by
  obtain ⟨node, hnode⟩ := exists_node_of_extends (Or.inl h)
  rw [supertype?_of_types hnode] at h
  rcases types_build_cases hnode with ⟨p, hp, hname, rfl⟩ | ⟨name, -, -, rfl⟩
  · simp only [Link.importedNode] at h
    cases hsuper : p.record.superClass with
    | some above =>
      rw [hsuper] at h
      have hdeclares : DeclaresSuperclass classes p.record.name above :=
        ⟨p.record, record_mem_of_placed hp, rfl, hsuper⟩
      exact Or.inr ⟨p.record.name, above, hname, hdeclares, (Option.some.inj h).symm⟩
    | none =>
      rw [hsuper] at h
      refine Or.inl ?_
      by_cases hroot : a = Link.root table
      · rw [if_pos hroot] at h
        cases h
      · rw [if_neg hroot] at h
        exact (Option.some.inj h).symm
  · simp only [Link.stubNode] at h
    split at h
    · cases h
    · exact Or.inl (Option.some.inj h).symm

namespace Linkable

variable (L : Linkable table classes) (hground : Grounded classes)
include L

theorem name_root : table.names[(build table classes).root]? = some rootName :=
  NameTable.getElem?_idOf L.rootName_mem

theorem name_above {name above : String} (h : DeclaresSuperclass classes name above) :
    table.names[table.idOf above]? = some above := by
  obtain ⟨c, hc, -, hsuper⟩ := h
  exact NameTable.getElem?_idOf (L.mem_of_class hc (ClassRecord.superClass_mem_mentions hsuper))

include hground

/-- The root has no superclass. -/
theorem supertype?_root :
    (build table classes).supertype? (build table classes).root = none := by
  cases hsuper : (build table classes).supertype? (build table classes).root with
  | none => rfl
  | some b =>
    obtain ⟨node, hnode⟩ := exists_node_of_extends (Or.inl hsuper)
    rw [supertype?_of_types hnode] at hsuper
    rcases types_build_cases hnode with ⟨p, hp, hname, rfl⟩ | ⟨name, -, -, rfl⟩
    · rw [L.name_root] at hname
      have hstated := hground.root p.record (record_mem_of_placed hp) (Option.some.inj hname).symm
      have hroot : (build table classes).root = Link.root table := rfl
      simp only [Link.importedNode, hstated, hroot, if_true, reduceCtorEq] at hsuper
    · have hroot : (build table classes).root = Link.root table := rfl
      simp only [Link.stubNode, hroot, true_or, if_true, reduceCtorEq] at hsuper

/-- Superclasses of superclasses are the root, or come from declaration to declaration. -/
theorem transGen_supertype?_cases
    (h : Relation.TransGen (fun a b => (build table classes).supertype? a = some b) a b) :
    b = (build table classes).root ∨
      ∃ name above, table.names[a]? = some name ∧ table.names[b]? = some above ∧
        Relation.TransGen (DeclaresSuperclass classes) name above := by
  induction h with
  | single hstep =>
    rcases supertype?_cases hstep with hroot | ⟨name, above, hname, hdeclares, rfl⟩
    · exact Or.inl hroot
    · exact Or.inr ⟨name, above, hname, L.name_above hdeclares, .single hdeclares⟩
  | tail _ hstep ih =>
    rename_i m b _
    rcases supertype?_cases hstep with hroot | ⟨middle, above, hmiddle, hdeclares, rfl⟩
    · exact Or.inl hroot
    · rcases ih with rfl | ⟨name, middle', hname, hmiddle', hup⟩
      -- the step cannot start at the root, which has no superclass
      · rw [L.supertype?_root hground] at hstep
        cases hstep
      · rw [hmiddle'] at hmiddle
        cases hmiddle
        exact Or.inr ⟨name, above, hname, L.name_above hdeclares, hup.tail hdeclares⟩

/-- No type comes up to itself. -/
theorem not_transGen_supertype?_self :
    ¬ Relation.TransGen (fun a b => (build table classes).supertype? a = some b) a a := by
  intro hcycle
  rcases L.transGen_supertype?_cases hground hcycle with rfl | ⟨name, above, hname, habove, hup⟩
  · obtain ⟨b, hstep, -⟩ := Relation.TransGen.head'_iff.1 hcycle
    rw [L.supertype?_root hground] at hstep
    cases hstep
  · rw [habove] at hname
    cases hname
    exact hground.acyclic name hup

/-- No chain comes to a primitive type. -/
theorem isPrimitive_eq_false_of_supertype? {above : TypeNode}
    (h : (build table classes).supertype? a = some b)
    (hnode : (build table classes).types[b]? = some above)
    (hroot : b ≠ (build table classes).root) : above.isPrimitive = false := by
  rcases supertype?_cases h with hb | ⟨name, stated, -, hdeclares, rfl⟩
  · exact absurd hb hroot
  · cases hprimitive : above.isPrimitive with
    | false => rfl
    | true =>
      obtain ⟨word, hword, hname⟩ := name_mem_primitiveWords hnode hprimitive
      rw [L.name_above hdeclares] at hname
      cases hname
      obtain ⟨c, hc, -, hsuper⟩ := hdeclares
      exact absurd hword (hground.notPrimitive c hc stated hsuper)

/-- A chain of superclasses, its start included, ends with the root if it does not start from a
primitive type. -/
theorem getLast_superClasses (hnode : (build table classes).types[a]? = some node)
    (hprimitive : node.isPrimitive = false) :
    (a :: (build table classes).superClasses a).getLast (List.cons_ne_nil _ _) =
      (build table classes).root := by
  have hend : (build table classes).supertype?
      ((a :: (build table classes).superClasses a).getLast (List.cons_ne_nil _ _)) = none := by
    refine Walk.next_getLast_chain (fun x y h => L.closed.lt_of_extends (Or.inl h))
      (fun x => L.not_transGen_supertype?_self hground) fun x hx => ?_
    rw [List.mem_singleton.1 hx]
  have hlast := List.getLast_mem (List.cons_ne_nil a ((build table classes).superClasses a))
  generalize (a :: (build table classes).superClasses a).getLast _ = last at hend hlast
  rcases List.mem_cons.1 hlast with rfl | hlast
  · rcases eq_root_or_isPrimitive hnode hend with hroot | hcase
    · exact hroot
    · rw [hprimitive] at hcase
      cases hcase
  -- the last type of the chain is the superclass of the one before it
  · obtain ⟨x, -, hstep⟩ := Relation.TransGen.tail'_iff.1 (Walk.transGen_of_mem_chain hlast)
    obtain ⟨above, habove⟩ : ∃ above, (build table classes).types[last]? = some above :=
      ⟨_, Array.getElem?_eq_getElem (L.closed.lt_of_extends (Or.inl hstep))⟩
    by_contra hne
    rcases eq_root_or_isPrimitive habove hend with hroot | hcase
    · exact hne hroot
    · rw [L.isPrimitive_eq_false_of_supertype? hground hstep habove hne] at hcase
      cases hcase

end Linkable

/-- A type without a superclass has an empty chain. -/
theorem superClasses_eq_nil {g : Graph} (h : g.supertype? a = none) : g.superClasses a = [] := by
  rw [superClasses, Walk.chain, h]

end Build

/-- Whatever names were numbered before, the linked classes being grounded, every type but the root
and the primitive types has a chain of superclasses that goes round in no circle and ends with the
root. Above the root and above primitive types there is nothing. -/
theorem superClasses_end_with_root {g : Graph} {names : List String} {policy : DuplicatePolicy}
    {classes kept : List ClassRecord}
    (hlink : link (NameTable.ofList names) policy classes = .ok g)
    (hkept : ClassRecord.dedupe policy classes = .ok kept) (hground : Grounded kept) :
    g.superClasses g.root = [] ∧
    ∀ T node, g.types[T]? = some node →
      (node.isPrimitive = true → g.superClasses T = []) ∧
      (T ≠ g.root → node.isPrimitive = false →
        g.superClasses T ≠ [] ∧ (g.superClasses T).Nodup ∧ T ∉ g.superClasses T ∧
          (g.superClasses T).getLast? = some g.root) := by
  obtain ⟨table, kept', hkept', rfl, L⟩ := linkable_of_link hlink
  rw [hkept] at hkept'
  cases hkept'
  refine ⟨superClasses_eq_nil (L.supertype?_root hground), fun T node hnode => ⟨?_, ?_⟩⟩
  · intro hprimitive
    apply superClasses_eq_nil
    cases hsuper : (build table kept).supertype? T with
    | none => rfl
    | some b => exact absurd (Or.inl hsuper) (not_extends_of_primitive hnode hprimitive)
  · intro hroot hprimitive
    have hlast := L.getLast_superClasses hground hnode hprimitive
    have hne : (build table kept).superClasses T ≠ [] := by
      intro hempty
      simp only [hempty, List.getLast_singleton] at hlast
      exact hroot hlast
    refine ⟨hne, Walk.nodup_chain, ?_, ?_⟩
    · exact fun hmem => Walk.notMem_seen_of_mem_chain hmem (List.mem_singleton.2 rfl)
    · rw [List.getLast_cons hne] at hlast
      rw [List.getLast?_eq_some_getLast hne, hlast]

/-! ### A chain through a class that is not there -/

/-- `A` extends `B` and has a field of type `int[]`, `B` extends `Lib`, which is not linked, and `C`
states no superclass. -/
def chained : List ClassRecord :=
  [{ plainRecord .plain "A" [] [] with
      superClass := some "B"
      fields := [⟨"values", "[I", .array (.base .int), Modifiers.none, none, []⟩] },
    { plainRecord .plain "B" [] [] with superClass := some "Lib" },
    { plainRecord .plain "C" [] [] with superClass := none }]

/-- The names that these classes mention, after one that was numbered before. -/
def chainedNames : NameTable :=
  ⟨["Early[]", "java.lang.Object", "A", "B", "C", "int", "int[]", "Lib"]⟩

theorem link_chained :
    link (NameTable.ofList ["Early[]"]) .fail chained = .ok (build chainedNames chained) := by
  have hmentions : mentions chained =
      ["java.lang.Object", "A", "B", "C", "A", "B", "int", "int[]", "B", "Lib", "C"] := by
    cbv
  exact link_of_mentions (by decide) hmentions rfl

theorem grounded_chained : Grounded chained := by
  let rank (name : String) : Nat := ["Lib", "B", "A"].idxOf name
  have hrank : ∀ name above, DeclaresSuperclass chained name above → rank name > rank above := by
    rintro name above ⟨c, hc, rfl, hsuper⟩
    simp only [chained, List.mem_cons, List.not_mem_nil, or_false] at hc
    rcases hc with rfl | rfl | rfl <;> cases hsuper <;> decide
  refine ⟨fun name hcycle => ?_, by decide +kernel, by decide +kernel⟩
  -- the rank falls along every path
  have hdown : Relation.TransGen (· > ·) (rank name) (rank name) :=
    Relation.TransGen.lift rank hrank name name hcycle
  rw [Relation.transGen_eq_self] at hdown
  exact Nat.lt_irrefl _ hdown

/-- The chains of `A`, which goes on above the missing `Lib`, of `int[]` and of the name numbered
before end with the root, and above `int` there is nothing. -/
theorem superClasses_end_with_root_chained :
    link (NameTable.ofList ["Early[]"]) .fail chained = .ok (build chainedNames chained) ∧
      ClassRecord.dedupe .fail chained = .ok chained ∧ Grounded chained ∧
      ((build chainedNames chained).superClasses 2).getLast? = some 1 ∧
      ((build chainedNames chained).superClasses 6).getLast? = some 1 ∧
      ((build chainedNames chained).superClasses 0).getLast? = some 1 ∧
      (build chainedNames chained).superClasses 5 = [] := by
  have hkept : ClassRecord.dedupe .fail chained = .ok chained := rfl
  obtain ⟨-, hchains⟩ := superClasses_end_with_root link_chained hkept grounded_chained
  obtain ⟨-, hA⟩ := hchains 2 _ rfl
  obtain ⟨-, hArray⟩ := hchains 6 _ rfl
  obtain ⟨-, hEarly⟩ := hchains 0 _ rfl
  obtain ⟨hint, -⟩ := hchains 5 _ rfl
  exact ⟨link_chained, hkept, grounded_chained, (hA (by decide) (by decide +kernel)).2.2.2,
    (hArray (by decide) (by decide +kernel)).2.2.2, (hEarly (by decide) (by decide +kernel)).2.2.2,
    hint (by decide +kernel)⟩

end Graph

end TypeAtlas
