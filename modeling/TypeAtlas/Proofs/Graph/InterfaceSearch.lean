import TypeAtlas.Proofs.Graph.Descent
import TypeAtlas.Proofs.Graph.Levels
import TypeAtlas.Proofs.Graph.Passes

/-!
# The search of interfaces

`allInterfaces` and `interfaceSearchOrder` search breadth first from the interfaces of a type and of
its superclasses. One passes over the type itself when it comes to the front of the queue, the other
counts it as seen from the beginning. On a linked graph both loops end with the same list: the types
that interface edges lead to, by their distance (`interface_searches_agree`). The type itself is left
out although edges may lead back to it; nothing is lost, since its own interfaces start the search.
-/

set_option autoImplicit false

namespace TypeAtlas.Graph

open Walk (Search Chase distances)

section Closed

variable {g : Graph} (hclosed : g.Closed)
include hclosed

theorem Closed.interfaces_lt (a : TypeId) : ∀ b ∈ g.interfaces a, b < g.typeCount :=
  fun _ hb => hclosed.lt_of_extends (Or.inr hb)

theorem Closed.startInterfaces_lt (a : TypeId) : ∀ b ∈ g.startInterfaces a, b < g.typeCount := by
  intro b hb
  rcases List.mem_append.1 hb with hb | hb
  · exact hclosed.interfaces_lt a b hb
  · obtain ⟨above, -, hb⟩ := List.mem_flatMap.1 hb
    exact hclosed.interfaces_lt above b hb

/-- The loop that follows superclasses ends with the chain, after as many passes as there are types
at most. -/
theorem Closed.superClasses_ends (a : TypeId) :
    Chase.EndsWithin g.supertype? g.typeCount ⟨g.supertype? a, [a], []⟩ (g.superClasses a) := by
  refine Chase.ends_chain fun b c hstep => ?_
  have hextends : g.Extends b c := Or.inl hstep
  exact ⟨hclosed.lt_of_extends hextends, hextends.lt_typeCount⟩

/-- The loop that passes over the type itself ends with all interfaces. -/
theorem Closed.allInterfaces_ends (a : TypeId) :
    Search.Ends g.interfaces (· == a) ⟨g.startInterfaces a, [], []⟩ (g.allInterfaces a) :=
  Search.ends_breadthFirst hclosed.interfaces_lt (hclosed.startInterfaces_lt a)

/-- The loop that counts the type itself as seen ends with the interfaces in which a method is
looked for. -/
theorem Closed.interfaceSearchOrder_ends (a : TypeId) :
    Search.Ends g.interfaces (fun _ => false) ⟨g.startInterfaces a, [a], []⟩
      (g.interfaceSearchOrder a) :=
  Search.ends_breadthFirst hclosed.interfaces_lt (hclosed.startInterfaces_lt a)

/-- An interface may be visited, unless it is the type itself, where the search starts. -/
theorem Closed.admits_interface (a b : TypeId) :
    ∀ c ∈ g.interfaces b,
      c ∈ a :: g.superClasses a ∨ Walk.Admits g.typeCount (· == a) [] c := by
  intro c hc
  by_cases hne : c = a
  · exact Or.inl (hne ▸ List.mem_cons_self)
  · exact Or.inr ⟨hclosed.interfaces_lt b c hc, List.not_mem_nil, beq_eq_false_iff_ne.2 hne⟩

/-- All interfaces of a type are the other types that interface edges lead to, from the type or from
a superclass. -/
theorem Closed.mem_allInterfaces_iff {a b : TypeId} :
    b ∈ g.allInterfaces a ↔
      b ≠ a ∧ (distances g.interfaces (a :: g.superClasses a) b).Nonempty := by
  refine (Walk.mem_breadthFirst_starts_iff (hclosed.admits_interface a)).trans ?_
  constructor
  · rintro ⟨hadmits, hnonempty⟩
    exact ⟨beq_eq_false_iff_ne.1 hadmits.2.2, hnonempty⟩
  · rintro ⟨hne, hnonempty⟩
    have hlt : b < g.typeCount := by
      obtain ⟨edges, hpos, start, -, hpath⟩ := hnonempty
      cases hpath with
      | nil => exact absurd hpos (Nat.lt_irrefl 0)
      | @snoc edges c _ hpath hlast => exact hclosed.interfaces_lt c b hlast
    exact ⟨⟨hlt, List.not_mem_nil, beq_eq_false_iff_ne.2 hne⟩, hnonempty⟩

/-- All interfaces of a type are listed by their distance. -/
theorem Closed.pairwise_allInterfaces (a : TypeId) :
    (g.allInterfaces a).Pairwise fun b c =>
      ∀ m n, IsLeast (distances g.interfaces (a :: g.superClasses a) b) m →
        IsLeast (distances g.interfaces (a :: g.superClasses a) c) n → m ≤ n :=
  Walk.pairwise_distances (hclosed.admits_interface a)

end Closed

/-- On a linked graph both searches for the interfaces of a type end, and with the same list. It
holds the other types that interface edges lead to from the type or from a superclass, each once, and
in the order of the least positive number of edges. -/
theorem interface_searches_agree {g : Graph} {names : List String} {policy : DuplicatePolicy}
    {classes : List ClassRecord} (hlink : link (NameTable.ofList names) policy classes = .ok g)
    (T : TypeId) :
    Chase.EndsWithin g.supertype? g.typeCount ⟨g.supertype? T, [T], []⟩ (g.superClasses T) ∧
    Search.Ends g.interfaces (· == T) ⟨g.startInterfaces T, [], []⟩ (g.allInterfaces T) ∧
    Search.Ends g.interfaces (fun _ => false) ⟨g.startInterfaces T, [T], []⟩
      (g.interfaceSearchOrder T) ∧
    g.interfaceSearchOrder T = g.allInterfaces T ∧
    (g.allInterfaces T).Nodup ∧ T ∉ g.allInterfaces T ∧
    (∀ S, S ∈ g.allInterfaces T ↔
      S ≠ T ∧ (distances g.interfaces (T :: g.superClasses T) S).Nonempty) ∧
    (g.allInterfaces T).Pairwise fun R S =>
      ∀ m n, IsLeast (distances g.interfaces (T :: g.superClasses T) R) m →
        IsLeast (distances g.interfaces (T :: g.superClasses T) S) n → m ≤ n := by
  obtain ⟨table, kept, -, rfl, L⟩ := linkable_of_link hlink
  have hclosed := L.closed
  refine ⟨hclosed.superClasses_ends T, hclosed.allInterfaces_ends T,
    hclosed.interfaceSearchOrder_ends T, interfaceSearchOrder_eq _ T, Walk.nodup_breadthFirst, ?_,
    fun S => hclosed.mem_allInterfaces_iff, hclosed.pairwise_allInterfaces T⟩
  exact fun hmem => (hclosed.mem_allInterfaces_iff.1 hmem).1 rfl

/-! ### A search that comes back to its start -/

/-- `T` extends `P` and names `I`, `P` names `K`, both lead to `J`, and `J` leads back to `I` and to
`T`. -/
def entangled : List ClassRecord :=
  [{ plainRecord .plain "T" ["I"] [] with superClass := some "P" },
    plainRecord .plain "P" ["K"] [], plainRecord .interface "I" ["J"] [],
    plainRecord .interface "J" ["I", "T"] [], plainRecord .interface "K" ["J"] []]

/-- The names that these classes mention. -/
def entangledNames : NameTable := ⟨["java.lang.Object", "T", "P", "I", "J", "K"]⟩

theorem link_entangled :
    link (NameTable.ofList []) .fail entangled = .ok (build entangledNames entangled) := by
  have hmentions : mentions entangled =
      ["java.lang.Object", "T", "P", "I", "J", "K", "T", "P", "I", "P", "java.lang.Object", "K",
        "I", "java.lang.Object", "J", "J", "java.lang.Object", "I", "T", "K", "java.lang.Object",
        "J"] := by
    cbv
  exact link_of_mentions (by decide) hmentions rfl

/-- `T` is not among its interfaces, and `J` is, though it is not named by a class of the chain. -/
theorem interface_searches_agree_entangled :
    link (NameTable.ofList []) .fail entangled = .ok (build entangledNames entangled) ∧
      1 ∈ (build entangledNames entangled).interfaces 4 ∧
      1 ∉ (build entangledNames entangled).allInterfaces 1 ∧
      4 ∈ (build entangledNames entangled).interfaceSearchOrder 1 := by
  obtain ⟨-, -, -, hsame, -, hself, hexact, -⟩ := interface_searches_agree link_entangled 1
  have hpath : Walk.Path (build entangledNames entangled).interfaces 1 2 4 :=
    (Walk.Path.nil.snoc (b := 1) (c := 3) (by decide +kernel)).snoc (by decide +kernel)
  have hlisted : 4 ∈ (build entangledNames entangled).allInterfaces 1 :=
    (hexact 4).2 ⟨by decide, 2, by decide, 1, List.mem_cons_self, hpath⟩
  exact ⟨link_entangled, by decide +kernel, hself, hsame ▸ hlisted⟩

end TypeAtlas.Graph
