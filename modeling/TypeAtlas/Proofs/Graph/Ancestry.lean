import TypeAtlas.Proofs.Graph.Search
import TypeAtlas.Graph.Resolution

/-!
# Types above a type

Everything that the upward walks of a graph list lies above the type they start from
(`transGen_of_mem_allSupertypes`), and a method is looked for in the very interfaces that
`allInterfaces` lists, in the same order (`interfaceSearchOrder_eq`).
-/

set_option autoImplicit false

namespace TypeAtlas.Graph

variable {g : Graph} {a b : TypeId}

/-- A type names another one as its superclass or as an interface. -/
def Extends (g : Graph) (a b : TypeId) : Prop := g.supertype? a = some b ∨ b ∈ g.interfaces a

/-- Only types of the graph extend others. -/
theorem Extends.lt_typeCount (h : g.Extends a b) : a < g.typeCount := by
  apply Nat.lt_of_not_le
  intro hle
  have hnone : g.types[a]? = none := Array.getElem?_eq_none hle
  rcases h with h | h
  · rw [supertype?, hnone] at h
    cases h
  · rw [interfaces, hnone] at h
    exact List.not_mem_nil h

/-- No type lies above itself. -/
def Acyclic (g : Graph) : Prop := ∀ id, ¬ Relation.TransGen g.Extends id id

/-- A graph whose edges all lead to types of a lower rank has no cycle. -/
theorem acyclic_of_rank (rank : TypeId → Nat) (h : ∀ a b, g.Extends a b → rank b < rank a) :
    g.Acyclic := by
  -- the rank falls along every path, so no path comes back
  have hup : ∀ a b, Relation.TransGen g.Extends a b → rank b < rank a := by
    intro a b hab
    induction hab with
    | single hstep => exact h _ _ hstep
    | tail _ hstep ih => exact Nat.lt_trans (h _ _ hstep) ih
  exact fun id hid => Nat.lt_irrefl _ (hup id id hid)

theorem transGen_of_mem_superClasses (h : b ∈ g.superClasses a) :
    Relation.TransGen g.Extends a b := by
  have hup := Walk.transGen_of_mem_chain h
  exact Relation.TransGen.mono (fun _ _ hnext => Or.inl hnext) _ _ hup

/-- The interfaces from which a search starts lie above the type. -/
theorem transGen_of_mem_startInterfaces (h : b ∈ g.startInterfaces a) :
    Relation.TransGen g.Extends a b := by
  unfold startInterfaces at h
  rcases List.mem_append.1 h with h | h
  · exact .single (Or.inr h)
  -- an interface that a superclass names
  · obtain ⟨c, hc, hb⟩ := List.mem_flatMap.1 h
    exact (transGen_of_mem_superClasses hc).tail (Or.inr hb)

theorem transGen_of_mem_allInterfaces (h : b ∈ g.allInterfaces a) :
    Relation.TransGen g.Extends a b := by
  obtain ⟨q, hq, -, hreach⟩ := Walk.exists_reach_of_mem_breadthFirst h
  have hup : Relation.ReflTransGen g.Extends q b :=
    Relation.ReflTransGen.mono (fun _ _ hstep => Or.inr hstep.1) _ _ hreach
  exact (transGen_of_mem_startInterfaces hq).trans_left hup

/-- The interfaces that a type names itself are among all of its interfaces. -/
theorem mem_allInterfaces_of_mem_interfaces (h : b ∈ g.interfaces a) (hlt : b < g.typeCount)
    (hne : b ≠ a) : b ∈ g.allInterfaces a := by
  refine Walk.breadthFirst_closed.1 b (List.mem_append_left _ h) ⟨hlt, List.not_mem_nil, ?_⟩
  exact beq_eq_false_iff_ne.2 hne

/-- With an interface, the interfaces that it names itself are among those of a type. -/
theorem mem_allInterfaces_of_step {c : TypeId} (h : c ∈ g.allInterfaces a)
    (hstep : b ∈ g.interfaces c) (hlt : b < g.typeCount) (hne : b ≠ a) :
    b ∈ g.allInterfaces a := by
  refine Walk.breadthFirst_closed.2 c h b ⟨hstep, hlt, List.not_mem_nil, ?_⟩
  exact beq_eq_false_iff_ne.2 hne

/-- Interfaces are supertypes, whether or not they are in the chain of superclasses too. -/
theorem mem_allSupertypes_of_mem_allInterfaces (h : b ∈ g.allInterfaces a) :
    b ∈ g.allSupertypes a := by
  unfold allSupertypes
  by_cases hsuper : b ∈ g.superClasses a
  · exact List.mem_append_left _ hsuper
  · refine List.mem_append_right _ (List.mem_filter.2 ⟨h, ?_⟩)
    exact decide_eq_true hsuper

/-- Supertypes lie above the type. -/
theorem transGen_of_mem_allSupertypes (h : b ∈ g.allSupertypes a) :
    Relation.TransGen g.Extends a b := by
  unfold allSupertypes at h
  rcases List.mem_append.1 h with h | h
  · exact transGen_of_mem_superClasses h
  · exact transGen_of_mem_allInterfaces (List.mem_filter.1 h).1

/-- Methods are looked for in all interfaces, breadth first. -/
theorem interfaceSearchOrder_eq (g : Graph) (owner : TypeId) :
    g.interfaceSearchOrder owner = g.allInterfaces owner :=
  (Walk.breadthFirst_skip_eq owner).symm

end TypeAtlas.Graph
