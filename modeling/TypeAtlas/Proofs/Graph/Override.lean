import Mathlib.Data.Fintype.EquivFin
import Mathlib.Order.WellFounded
import TypeAtlas.Proofs.Graph.Ancestry
import TypeAtlas.Proofs.Graph.Declared
import TypeAtlas.Proofs.Graph.Linked

/-!
# The choice among interface methods

Of the methods that fit a target in the interfaces of its owner, the search takes the first that no
other one overrides. In a graph without cycles there is always such a method
(`exists_not_declaredAbove`): a method that is overridden is overridden by one further down, and
only finitely many candidates are there to go down to.
-/

set_option autoImplicit false

namespace TypeAtlas.Graph

variable {g : Graph} {m other : MemberId} {candidates : List MemberId}

/-- A member is declared by a type above the type that declares another one. -/
def DeclaredAbove (g : Graph) (m other : MemberId) : Prop :=
  ∃ d e, g.declaringType? m = some d ∧ g.declaringType? other = some e ∧ d ∈ g.allSupertypes e

theorem isOverriddenBy_iff :
    g.isOverriddenBy m other = true ↔
      ∃ d e, g.declaringType? m = some d ∧ g.declaringType? other = some e ∧ e ≠ d ∧
        d ∈ g.allSupertypes e := by
  unfold isOverriddenBy
  cases g.declaringType? m with
  | none => simp
  | some d =>
    cases g.declaringType? other with
    | none => simp
    | some e => simp

/-- Being declared above leads up along the edges of the graph, however often it is repeated. -/
theorem transGen_of_transGen_declaredAbove (h : Relation.TransGen g.DeclaredAbove m other) :
    ∃ d e, g.declaringType? m = some d ∧ g.declaringType? other = some e ∧
      Relation.TransGen g.Extends e d := by
  induction h with
  | single hstep =>
    obtain ⟨d, e, hd, he, hmem⟩ := hstep
    exact ⟨d, e, hd, he, transGen_of_mem_allSupertypes hmem⟩
  | tail _ hstep ih =>
    obtain ⟨d, e, hd, he, hup⟩ := ih
    obtain ⟨e', f, he', hf, hmem⟩ := hstep
    -- `other` of the path and of the last step are declared by one type
    rw [he] at he'
    cases he'
    exact ⟨d, f, hd, hf, (transGen_of_mem_allSupertypes hmem).trans hup⟩

section Acyclic

variable (hacyclic : g.Acyclic)
include hacyclic

theorem not_transGen_declaredAbove_self : ¬ Relation.TransGen g.DeclaredAbove m m := by
  intro h
  obtain ⟨d, e, hd, he, hup⟩ := transGen_of_transGen_declaredAbove h
  rw [hd] at he
  cases he
  exact hacyclic d hup

/-- Without cycles, the override test asks for the declaring types alone. -/
theorem isOverriddenBy_iff_declaredAbove :
    g.isOverriddenBy m other = true ↔ g.DeclaredAbove m other := by
  rw [isOverriddenBy_iff]
  constructor
  · rintro ⟨d, e, hd, he, -, hmem⟩
    exact ⟨d, e, hd, he, hmem⟩
  · rintro ⟨d, e, hd, he, hmem⟩
    -- a type above itself would close a cycle
    refine ⟨d, e, hd, he, ?_, hmem⟩
    rintro rfl
    exact hacyclic e (transGen_of_mem_allSupertypes hmem)

/-- Some candidate is not declared above any other one. -/
theorem exists_not_declaredAbove (hne : candidates ≠ []) :
    ∃ m ∈ candidates, ∀ other ∈ candidates, ¬ g.DeclaredAbove m other := by
  -- the candidates are finitely many, and going down among them never comes back
  let Candidate := { m // m ∈ candidates }
  let lower : Candidate → Candidate → Prop := fun a b =>
    Relation.TransGen g.DeclaredAbove b.1 a.1
  have htrans : IsTrans Candidate lower := ⟨fun _ _ _ hab hbc => hbc.trans hab⟩
  have hirrefl : Std.Irrefl lower := ⟨fun _ h => not_transGen_declaredAbove_self hacyclic h⟩
  have hwf : WellFounded lower := Finite.wellFounded_of_trans_of_irrefl lower
  obtain ⟨first, hfirst⟩ := List.exists_mem_of_ne_nil candidates hne
  obtain ⟨m, -, hmin⟩ := hwf.has_min Set.univ ⟨⟨first, hfirst⟩, trivial⟩
  exact ⟨m.1, m.2, fun other hother h => hmin ⟨other, hother⟩ trivial (.single h)⟩

/-- The choice among candidates is the first that is not declared above another one. -/
theorem mostSpecific_eq_some_iff :
    g.mostSpecific candidates = some m ↔
      (∀ other ∈ candidates, ¬ g.DeclaredAbove m other) ∧
        ∃ before after, candidates = before ++ m :: after ∧
          ∀ earlier ∈ before, ∃ other ∈ candidates, g.DeclaredAbove earlier other := by
  -- the two sides of the search: a candidate that is kept, and one that is passed over
  have hkeep : ∀ member, (!candidates.any (g.isOverriddenBy member)) = true ↔
      ∀ other ∈ candidates, ¬ g.DeclaredAbove member other := by
    intro member
    rw [Bool.not_eq_true', List.any_eq_false]
    exact forall₂_congr fun other _ =>
      not_congr (isOverriddenBy_iff_declaredAbove hacyclic)
  have hdrop : ∀ member, (!!candidates.any (g.isOverriddenBy member)) = true ↔
      ∃ other ∈ candidates, g.DeclaredAbove member other := by
    intro member
    rw [Bool.not_not, List.any_eq_true]
    exact exists_congr fun other => and_congr_right fun _ =>
      isOverriddenBy_iff_declaredAbove hacyclic
  unfold mostSpecific
  rw [List.find?_eq_some_iff_append, hkeep]
  simp only [hdrop]

/-- Among candidates there is always a choice. -/
theorem exists_mostSpecific (hne : candidates ≠ []) :
    ∃ m, g.mostSpecific candidates = some m := by
  obtain ⟨m, hm, hmin⟩ := exists_not_declaredAbove hacyclic hne
  unfold mostSpecific
  refine Option.isSome_iff_exists.1 (List.find?_isSome.2 ⟨m, hm, ?_⟩)
  rw [Bool.not_eq_true', List.any_eq_false]
  exact fun other hother h =>
    hmin other hother ((isOverriddenBy_iff_declaredAbove hacyclic).1 h)

end Acyclic

/-! ## Linked graphs -/

/-- What a look into a type finds is declared by that type. -/
theorem declaringType?_of_findCodeUnit {table : NameTable} {classes : List ClassRecord}
    {kind : MemberKind} {target : AccessTarget} {type : TypeId} (hnodup : table.names.Nodup)
    (h : (build table classes).findCodeUnit kind target type = some m) :
    (build table classes).declaringType? m = some type := by
  obtain ⟨node, hnode, rfl, -⟩ := exists_of_findCodeUnit h
  exact declaringType?_of_mem hnodup hnode

/-- A candidate in a linked graph is a member of one of the interfaces searched, and fits. -/
theorem exists_of_mem_candidates {table : NameTable} {classes : List ClassRecord}
    {target : AccessTarget} {types : List TypeId} (hnodup : table.names.Nodup)
    (h : m ∈ types.filterMap ((build table classes).findCodeUnit .method target)) :
    ∃ type ∈ types, ∃ node ∈ (build table classes).membersOf type,
      node.id = m ∧ fits .method target node = true ∧
        (build table classes).declaringType? m = some type := by
  obtain ⟨type, htype, hfind⟩ := List.mem_filterMap.1 h
  obtain ⟨node, hnode, hid, hfits⟩ := exists_of_findCodeUnit hfind
  exact ⟨type, htype, node, hnode, hid, hfits, declaringType?_of_findCodeUnit hnodup hfind⟩

/-- In a linked graph without cycles, a method that some interface of the owner declares is found
among the interfaces. It is the first candidate that is not declared above another one, and if no
candidate is declared above another one it is the first of all. -/
theorem resolveInInterfaces_of_acyclic {names : List String} {policy : DuplicatePolicy}
    {classes : List ClassRecord} (hlink : link (NameTable.ofList names) policy classes = .ok g)
    (hacyclic : g.Acyclic) (target : AccessTarget)
    (hcandidates : candidates =
      (g.allInterfaces target.owner).filterMap (g.findCodeUnit .method target))
    (hne : candidates ≠ []) :
    (∀ c ∈ candidates, ∃ type ∈ g.allInterfaces target.owner, ∃ node ∈ g.membersOf type,
      node.id = c ∧ fits .method target node = true ∧ g.declaringType? c = some type) ∧
    ∃ m before after,
      g.resolveInInterfaces target.owner target = some m ∧
      candidates = before ++ m :: after ∧
      (∀ other ∈ candidates, other ≠ m → ¬ g.DeclaredAbove m other) ∧
      (∀ earlier ∈ before, ∃ other ∈ candidates, other ≠ earlier ∧
        g.DeclaredAbove earlier other) ∧
      ((candidates.Pairwise fun a b => ¬ g.DeclaredAbove a b ∧ ¬ g.DeclaredAbove b a) →
        candidates.head? = some m) := by
  obtain ⟨kept, -, rfl⟩ := link_eq_ok_iff.1 hlink
  have hnodup := NameTable.nodup_insertAll _ (mentions kept) (NameTable.nodup_ofList names)
  refine ⟨fun c hc => exists_of_mem_candidates hnodup (hcandidates ▸ hc), ?_⟩
  obtain ⟨m, hm⟩ := exists_mostSpecific hacyclic hne
  obtain ⟨hmin, before, after, hsplit, hearlier⟩ := (mostSpecific_eq_some_iff hacyclic).1 hm
  refine ⟨m, before, after, ?_, hsplit, fun other hother _ => hmin other hother, ?_, ?_⟩
  · rw [resolveInInterfaces, interfaceCandidates, interfaceSearchOrder_eq, ← hcandidates]
    exact hm
  · intro earlier he
    obtain ⟨other, hother, habove⟩ := hearlier earlier he
    refine ⟨other, hother, ?_, habove⟩
    rintro rfl
    exact not_transGen_declaredAbove_self hacyclic (.single habove)
  -- of unrelated candidates nothing is passed over, so nothing stands before the choice
  · intro hpair
    cases before with
    | nil => rw [hsplit]; rfl
    | cons first rest =>
      obtain ⟨other, hother, habove⟩ := hearlier first List.mem_cons_self
      rw [hsplit, List.cons_append] at hother hpair
      rcases List.mem_cons.1 hother with rfl | hother
      · exact absurd (.single habove) (not_transGen_declaredAbove_self hacyclic)
      · exact absurd habove ((List.pairwise_cons.1 hpair).1 other hother).1

/-! ### A diamond -/

/-- `B` extends `A`, and `C` implements both of them. -/
def diamond : List ClassRecord :=
  [plainRecord .interface "A" [] [plainMethod], plainRecord .interface "B" ["A"] [plainMethod],
    plainRecord .plain "C" ["A", "B"] []]

/-- The names that the diamond mentions. -/
def diamondNames : NameTable := ⟨["java.lang.Object", "A", "B", "C", "void"]⟩

/-- The target of a call `C.m()`. -/
def diamondTarget : AccessTarget := ⟨0, .method, 3, "m", "()V", [], 4, "C.m()"⟩

theorem link_diamond :
    link (NameTable.ofList []) .fail diamond = .ok (build diamondNames diamond) := by
  have hmentions : mentions diamond =
      ["java.lang.Object", "A", "B", "C", "A", "java.lang.Object", "void", "B",
        "java.lang.Object", "A", "void", "C", "java.lang.Object", "A", "B"] := by
    cbv
  exact link_of_mentions (by decide) hmentions rfl

theorem acyclic_diamond : (build diamondNames diamond).Acyclic := by
  -- every edge leads to a lower number
  have hrank : ∀ a < 5, (∀ b ∈ (build diamondNames diamond).supertype? a, b < a) ∧
      ∀ b ∈ (build diamondNames diamond).interfaces a, b < a := by
    decide +kernel
  apply acyclic_of_rank id
  intro a b h
  obtain ⟨hsuper, hinterfaces⟩ := hrank a h.lt_typeCount
  rcases h with h | h
  · exact hsuper b h
  · exact hinterfaces b h

/-- The diamond meets what `resolveInInterfaces_of_acyclic` asks for. -/
theorem resolveInInterfaces_diamond :
    link (NameTable.ofList []) .fail diamond = .ok (build diamondNames diamond) ∧
      (build diamondNames diamond).Acyclic ∧
      ∃ m, (build diamondNames diamond).resolveInInterfaces 3 diamondTarget = some m := by
  have hmem : 1 ∈ (build diamondNames diamond).allInterfaces 3 :=
    mem_allInterfaces_of_mem_interfaces (by decide +kernel) (by decide +kernel) (by decide)
  have hfind : (build diamondNames diamond).findCodeUnit .method diamondTarget 1 = some 0 := by
    decide +kernel
  have hne : ((build diamondNames diamond).allInterfaces 3).filterMap
      ((build diamondNames diamond).findCodeUnit .method diamondTarget) ≠ [] :=
    List.ne_nil_of_mem (List.mem_filterMap.2 ⟨1, hmem, hfind⟩)
  obtain ⟨-, m, -, -, hm, -⟩ :=
    resolveInInterfaces_of_acyclic link_diamond acyclic_diamond diamondTarget rfl hne
  exact ⟨link_diamond, acyclic_diamond, m, hm⟩

end TypeAtlas.Graph
