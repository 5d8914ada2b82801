import TypeAtlas.Graph.Resolution

/-!
# Members that a type declares for a target

A look into one type finds a member exactly if the type declares one that fits
(`findField_eq_none_iff`, `findCodeUnit_eq_none_iff`), and what it finds is such a member.
-/

set_option autoImplicit false

namespace TypeAtlas.Graph

variable {g : Graph} {target : AccessTarget} {type : TypeId} {kind : MemberKind}

/-- A member has the name of a target and, unless a field is meant, its parameters. -/
def Matches (target : AccessTarget) (m : MemberNode) : Prop :=
  m.kind = target.kind.memberKind ∧ m.name = target.name ∧
    (target.kind ≠ .field → m.parameters = target.parameters)

/-- A type declares a member that matches a target. -/
def Declares (g : Graph) (target : AccessTarget) (type : TypeId) : Prop :=
  ∃ m ∈ g.membersOf type, Matches target m

/-- A number that no type has declares no members. -/
theorem membersOf_eq_nil (h : g.typeCount ≤ type) : g.membersOf type = [] := by
  have hnone : g.types[type]? = none := Array.getElem?_eq_none h
  rw [membersOf, hnone]

theorem fits_iff {m : MemberNode} :
    fits kind target m = true ↔
      m.kind = kind ∧ m.name = target.name ∧ m.parameters = target.parameters := by
  unfold fits
  simp only [Bool.and_eq_true, beq_iff_eq, and_assoc]

/-! ## The member preferred among those that fit -/

theorem preferExact_eq_none_iff {fitting : List MemberNode} :
    preferExact target fitting = none ↔ fitting = [] := by
  cases fitting with
  | nil => simp [preferExact]
  | cons m rest => simp [preferExact]

/-- The preferred member is one of those that fit. -/
theorem exists_of_preferExact {fitting : List MemberNode} {id : MemberId}
    (h : preferExact target fitting = some id) : ∃ m ∈ fitting, m.id = id := by
  unfold preferExact at h
  obtain ⟨m, hm, hid⟩ := Option.map_eq_some_iff.1 h
  refine ⟨m, ?_, hid⟩
  rcases Option.or_eq_some_iff.1 hm with hfind | ⟨-, hhead⟩
  · exact List.mem_of_find?_eq_some hfind
  · exact List.mem_of_head? hhead

/-! ## Looking into one type -/

theorem findCodeUnit_eq_none_iff :
    g.findCodeUnit kind target type = none ↔
      ∀ m ∈ g.membersOf type, ¬ fits kind target m = true := by
  rw [findCodeUnit, preferExact_eq_none_iff, List.filter_eq_nil_iff]

/-- A code unit that is found is a member of the type, and fits. -/
theorem exists_of_findCodeUnit {id : MemberId} (h : g.findCodeUnit kind target type = some id) :
    ∃ m ∈ g.membersOf type, m.id = id ∧ fits kind target m = true := by
  obtain ⟨m, hm, hid⟩ := exists_of_preferExact h
  obtain ⟨hmem, hfits⟩ := List.mem_filter.1 hm
  exact ⟨m, hmem, hid, hfits⟩

/-- A look for a code unit comes back empty exactly if the type declares none that matches. -/
theorem findCodeUnit_eq_none_iff_not_declares (hkind : target.kind ≠ .field) :
    g.findCodeUnit target.kind.memberKind target type = none ↔ ¬ g.Declares target type := by
  rw [findCodeUnit_eq_none_iff, Declares, not_exists]
  apply forall_congr'
  intro m
  rw [not_and, fits_iff, Matches]
  simp only [hkind, ne_eq, not_false_eq_true, true_implies]

/-- A look for a field comes back empty exactly if the type declares none that matches. -/
theorem findField_eq_none_iff_not_declares (hkind : target.kind = .field) :
    g.findField target type = none ↔ ¬ g.Declares target type := by
  rw [findField, preferExact_eq_none_iff, List.filter_eq_nil_iff, Declares, not_exists]
  apply forall_congr'
  intro m
  simp only [fields, membersOfKind, Matches, hkind, TargetKind.memberKind, List.mem_filter,
    beq_iff_eq, ne_eq, not_true_eq_false, false_implies, and_true, not_and, and_imp]

end TypeAtlas.Graph
