import TypeAtlas.Proofs.Graph.InterfaceSearch

/-!
# Chains that run into a circle

The superclasses that classes state may lead back to a class, be it the one a walk starts from or
one that it comes to later. A chain is then the longest beginning of the sequence of superclasses
that neither comes back to the start nor repeats a type (`Walk.longestFresh_chain`). Nothing is lost
by stopping there: a circle is left out only where it is entered for the second time, so every type
that superclasses lead to is the start or in the chain. The walk down queues a type again for every
edge to it and takes as many passes, but visits it once (`walks_stop_at_circles`).
-/

set_option autoImplicit false

namespace TypeAtlas

namespace Walk

/-! ## Sequences of successors -/

/-- The successor of a node, the successor of that one, and so on, by the number of steps after the
first. -/
def successor? (next : Nat → Option Nat) (node : Nat) : Nat → Option Nat
  | 0 => next node
  | steps + 1 => (successor? next node steps).bind next

/-- A list of nodes is the beginning of the sequence of successors. -/
def Begins (next : Nat → Option Nat) (node : Nat) (nodes : List Nat) : Prop :=
  ∀ steps < nodes.length, nodes[steps]? = successor? next node steps

/-- A beginning of the sequence of successors with neither the node itself nor a repetition. -/
structure Fresh (next : Nat → Option Nat) (node : Nat) (nodes : List Nat) : Prop where
  begins : Begins next node nodes
  notMem : node ∉ nodes
  nodup : nodes.Nodup

/-- The longest of these beginnings. -/
structure LongestFresh (next : Nat → Option Nat) (node : Nat) (nodes : List Nat) : Prop where
  fresh : Fresh next node nodes
  longest : ∀ other, Fresh next node other → other <+: nodes

section Chain

variable {bound : Nat} {next : Nat → Option Nat} {seen : List Nat} {node after : Nat}

/-- The sequence of a node goes on as that of its successor. -/
theorem successor?_succ (h : next node = some after) (steps : Nat) :
    successor? next node (steps + 1) = successor? next after steps := by
  induction steps with
  | zero =>
    show (next node).bind next = next after
    rw [h, Option.bind_some]
  | succ steps ih => rw [successor?, ih, successor?]

theorem begins_nil : Begins next node [] := fun _ h => absurd h (Nat.not_lt_zero _)

theorem begins_cons_iff {rest : List Nat} :
    Begins next node (after :: rest) ↔ next node = some after ∧ Begins next after rest := by
  constructor
  · intro h
    have hafter : next node = some after := (h 0 (Nat.succ_pos _)).symm
    refine ⟨hafter, fun steps hlt => ?_⟩
    have hstep := h (steps + 1) (Nat.succ_lt_succ hlt)
    rwa [List.getElem?_cons_succ, successor?_succ hafter] at hstep
  · rintro ⟨hafter, h⟩ steps hlt
    cases steps with
    | zero => exact hafter.symm
    | succ steps =>
      rw [List.getElem?_cons_succ, successor?_succ hafter]
      exact h steps (Nat.lt_of_succ_lt_succ hlt)

theorem begins_chain : Begins next node (chain bound next seen node) := by
  fun_induction chain bound next seen node with
  | case1 => exact begins_nil
  | case2 seen node after hafter _ _ ih => exact begins_cons_iff.2 ⟨hafter, ih⟩
  | case3 => exact begins_nil

/-- A chain is as long as any beginning of the sequence that has no repetition and no node that
counts as seen. -/
theorem prefix_chain (hbound : ∀ a b, next a = some b → b < bound) {other : List Nat}
    (hbegins : Begins next node other) (hnodup : other.Nodup) (hseen : ∀ a ∈ other, a ∉ seen) :
    other <+: chain bound next seen node := by
  fun_induction chain bound next seen node generalizing other with
  | case1 seen node hnone =>
    cases other with
    | nil => exact List.prefix_rfl
    | cons a rest =>
      rw [(begins_cons_iff.1 hbegins).1] at hnone
      cases hnone
  | case2 seen node after hafter _ _ ih =>
    cases other with
    | nil => exact List.nil_prefix
    | cons a rest =>
      obtain ⟨ha, hrest⟩ := begins_cons_iff.1 hbegins
      rw [hafter] at ha
      cases ha
      obtain ⟨hnotMem, hnodup⟩ := List.nodup_cons.1 hnodup
      -- from here on `after` counts as seen, and it does not occur again
      refine List.cons_prefix_cons.2 ⟨rfl, ih hrest hnodup fun b hb => ?_⟩
      rw [List.mem_cons, not_or]
      exact ⟨fun heq => hnotMem (heq ▸ hb), hseen b (List.mem_cons_of_mem _ hb)⟩
  | case3 seen node after hafter hold =>
    cases other with
    | nil => exact List.nil_prefix
    | cons a rest =>
      obtain ⟨ha, -⟩ := begins_cons_iff.1 hbegins
      rw [hafter] at ha
      cases ha
      exact absurd ⟨hbound node after hafter, hseen after List.mem_cons_self⟩ hold

/-- A chain that has seen its start is the longest beginning of the sequence of successors without
the start and without a repetition. -/
theorem longestFresh_chain (hbound : ∀ a b, next a = some b → b < bound) :
    LongestFresh next node (chain bound next [node] node) where
  fresh :=
    { begins := begins_chain
      notMem := fun hmem => notMem_seen_of_mem_chain hmem (List.mem_singleton.2 rfl)
      nodup := nodup_chain }
  longest other h := by
    refine prefix_chain hbound h.begins h.nodup fun a ha hseen => ?_
    exact h.notMem (List.mem_singleton.1 hseen ▸ ha)

end Chain

/-! ## Passes of a search -/

namespace Search

/-- After this many passes the queue is empty, and these nodes have been found. -/
def EndsAfter (next : Nat → List Nat) (skip : Nat → Bool) (passes : Nat) (s : Search)
    (found : List Nat) : Prop :=
  ∃ seen, (pass next skip)^[passes] s = ⟨[], seen, found⟩

/-- Below a bound a search from the successors of a node takes one pass for each edge out of the
node and out of what it finds. -/
theorem endsAfter_breadthFirst {bound : Nat} {next : Nat → List Nat} {skip : Nat → Bool}
    {seen : List Nat} (hnext : ∀ a, ∀ b ∈ next a, b < bound) (node : Nat) :
    EndsAfter next skip
      ((node :: breadthFirst bound next skip seen (next node)).flatMap next).length
      ⟨next node, seen, []⟩ (breadthFirst bound next skip seen (next node)) := by
  rw [List.flatMap_cons, List.length_append]
  exact ⟨_, iterate_pass hnext (hnext node)⟩

end Search

/-- A search finds no more nodes than lie below the bound. -/
theorem length_breadthFirst_le {bound : Nat} {next : Nat → List Nat} {skip : Nat → Bool}
    {seen queue : List Nat} : (breadthFirst bound next skip seen queue).length ≤ bound := by
  have hbelow : breadthFirst bound next skip seen queue ⊆ List.range bound := fun a ha =>
    List.mem_range.2 (admits_of_mem_breadthFirst ha).1
  have hle := (List.subperm_of_subset nodup_breadthFirst hbelow).length_le
  rwa [List.length_range] at hle

end Walk

namespace Graph

open Walk (Search Chase)

section Closed

variable {g : Graph} (hclosed : g.Closed)
include hclosed

/-- A type that superclasses lead to is the type they start from, or is in its chain. -/
theorem Closed.mem_superClasses_of_transGen {a b : TypeId}
    (h : Relation.TransGen (fun c d => g.supertype? c = some d) a b) :
    b = a ∨ b ∈ g.superClasses a := by
  induction h with
  | single hstep => exact superClasses_closed hclosed (Or.inl rfl) hstep
  | tail _ hstep ih => exact superClasses_closed hclosed ih hstep

end Closed

namespace Linkable

variable {table : NameTable} {classes : List ClassRecord} (L : Linkable table classes)
include L

theorem subClasses_lt (a : TypeId) :
    ∀ b ∈ (build table classes).subClasses a, b < (build table classes).typeCount :=
  fun _ hb => (L.mem_subClasses_iff.1 hb).lt_typeCount

/-- The walk down visits the other types that edges to subtypes lead to. -/
theorem mem_allSubClasses_iff_transGen {a b : TypeId} :
    a ∈ (build table classes).allSubClasses b ↔
      a ≠ b ∧ Relation.TransGen (fun c d => d ∈ (build table classes).subClasses c) b a := by
  rw [L.mem_allSubClasses_iff]
  refine and_congr_right fun hne => ?_
  have hswap : Relation.TransGen (fun c d => d ∈ (build table classes).subClasses c) b a ↔
      Relation.TransGen (build table classes).Extends a b := by
    rw [← Relation.transGen_swap]
    simp only [L.mem_subClasses_iff]
  rw [hswap, Relation.reflTransGen_iff_eq_or_transGen]
  exact or_iff_right fun heq => hne heq.symm

end Linkable

/-- On a linked graph, circular or not, the chain of a type takes as many passes as there are types
at most, and is the longest beginning of its superclasses, the superclasses of these and so on that
contains neither the type nor a repetition; every type that superclasses lead to is the type itself
or in it. The walk down takes one pass for each edge that it meets, and visits the other types that
edges to subtypes lead to, each once. -/
theorem walks_stop_at_circles {g : Graph} {names : List String} {policy : DuplicatePolicy}
    {classes : List ClassRecord} (hlink : link (NameTable.ofList names) policy classes = .ok g)
    (T : TypeId) :
    Chase.EndsWithin g.supertype? g.typeCount ⟨g.supertype? T, [T], []⟩ (g.superClasses T) ∧
    Walk.LongestFresh g.supertype? T (g.superClasses T) ∧
    (∀ S, Relation.TransGen (fun a b => g.supertype? a = some b) T S →
      S = T ∨ S ∈ g.superClasses T) ∧
    Search.EndsAfter g.subClasses (fun _ => false)
      ((T :: g.allSubClasses T).flatMap g.subClasses).length ⟨g.subClasses T, [T], []⟩
      (g.allSubClasses T) ∧
    (g.allSubClasses T).length ≤ g.typeCount ∧ (g.allSubClasses T).Nodup ∧
    ∀ S, S ∈ g.allSubClasses T ↔
      S ≠ T ∧ Relation.TransGen (fun a b => b ∈ g.subClasses a) T S := by
  obtain ⟨table, kept, -, rfl, L⟩ := linkable_of_link hlink
  have hclosed := L.closed
  refine ⟨hclosed.superClasses_ends T, Walk.longestFresh_chain fun a b h => ?_, fun S h => ?_,
    Search.endsAfter_breadthFirst L.subClasses_lt T, Walk.length_breadthFirst_le,
    Walk.nodup_breadthFirst, fun S => L.mem_allSubClasses_iff_transGen⟩
  · exact hclosed.lt_of_extends (Or.inl h)
  · exact hclosed.mem_superClasses_of_transGen h

/-! ### A tail, a circle and a class above itself -/

/-- `T` extends `P`, which with `Q` goes round in a circle, and `S` extends itself. -/
def looped : List ClassRecord :=
  [{ plainRecord .plain "T" [] [] with superClass := some "P" },
    { plainRecord .plain "P" [] [] with superClass := some "Q" },
    { plainRecord .plain "Q" [] [] with superClass := some "P" },
    { plainRecord .plain "S" [] [] with superClass := some "S" }]

/-- The names that these classes mention. -/
def loopedNames : NameTable := ⟨["java.lang.Object", "T", "P", "Q", "S"]⟩

theorem link_looped :
    link (NameTable.ofList []) .fail looped = .ok (build loopedNames looped) := by
  have hmentions : mentions looped =
      ["java.lang.Object", "T", "P", "Q", "S", "T", "P", "P", "Q", "Q", "P", "S", "S"] := by
    cbv
  exact link_of_mentions (by decide) hmentions rfl

/-- The chain of `T` goes once round the circle, there is nothing above `S`, and below `P` lie `T`
and `Q`. -/
theorem walks_stop_at_circles_looped :
    link (NameTable.ofList []) .fail looped = .ok (build loopedNames looped) ∧
      [2, 3] <+: (build loopedNames looped).superClasses 1 ∧
      (build loopedNames looped).supertype? 4 = some 4 ∧
      4 ∉ (build loopedNames looped).superClasses 4 ∧
      1 ∈ (build loopedNames looped).allSubClasses 2 ∧
      3 ∈ (build loopedNames looped).allSubClasses 2 ∧
      2 ∉ (build loopedNames looped).allSubClasses 2 := by
  obtain ⟨-, htail, -⟩ := walks_stop_at_circles link_looped 1
  obtain ⟨-, hself, -⟩ := walks_stop_at_circles link_looped 4
  obtain ⟨-, -, -, -, -, -, hbelow⟩ := walks_stop_at_circles link_looped 2
  have hbegins : Walk.Begins (build loopedNames looped).supertype? 1 [2, 3] :=
    Walk.begins_cons_iff.2 ⟨by decide +kernel,
      Walk.begins_cons_iff.2 ⟨by decide +kernel, Walk.begins_nil⟩⟩
  have hfresh : Walk.Fresh (build loopedNames looped).supertype? 1 [2, 3] :=
    ⟨hbegins, by decide, by decide⟩
  refine ⟨link_looped, htail.longest _ hfresh, by decide +kernel, hself.fresh.notMem, ?_, ?_, ?_⟩
  · exact (hbelow 1).2 ⟨by decide, .single (by decide +kernel)⟩
  · exact (hbelow 3).2 ⟨by decide, .single (by decide +kernel)⟩
  · exact fun hmem => ((hbelow 2).1 hmem).1 rfl

end Graph

end TypeAtlas
