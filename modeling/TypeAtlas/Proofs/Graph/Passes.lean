import Mathlib.Data.List.Perm.Subperm
import Mathlib.Logic.Function.Iterate
import TypeAtlas.Proofs.Graph.Search

/-!
# The walks as loops

The walks are loops that keep what they have seen and what they have found, and look at one node in
each pass: `Search.pass` takes the first node of a queue, `Chase.pass` the one successor of the node
before. The loops know no bound and no measure. On nodes that all lie below a bound both end, and
with what `breadthFirst` and `chain` list (`Search.ends_breadthFirst`, `Chase.ends_chain`): every
node comes to the front of the queue once for each time that it was queued, and a chase stops after
its last new node.
-/

set_option autoImplicit false

namespace TypeAtlas.Walk

/-! ## Searching -/

/-- A search in progress. -/
structure Search where
  queue : List Nat
  seen : List Nat
  found : List Nat := []

namespace Search

/-- One pass: takes the first node of the queue, and unless it is to be skipped or has been seen,
lists it and queues its successors. With an empty queue the loop is over. -/
def pass (next : Nat → List Nat) (skip : Nat → Bool) : Search → Search
  | ⟨[], seen, found⟩ => ⟨[], seen, found⟩
  | ⟨node :: queue, seen, found⟩ =>
    if skip node = true ∨ node ∈ seen then ⟨queue, seen, found⟩
    else ⟨queue ++ next node, node :: seen, found ++ [node]⟩

/-- After some passes the queue is empty, and these nodes have been found. -/
def Ends (next : Nat → List Nat) (skip : Nat → Bool) (s : Search) (found : List Nat) : Prop :=
  ∃ passes seen, (pass next skip)^[passes] s = ⟨[], seen, found⟩

variable {bound : Nat} {next : Nat → List Nat} {skip : Nat → Bool} {node : Nat}
  {seen queue found : List Nat}

theorem pass_of_admits (h : Admits bound skip seen node) :
    pass next skip ⟨node :: queue, seen, found⟩ =
      ⟨queue ++ next node, node :: seen, found ++ [node]⟩ := by
  refine if_neg ?_
  rintro (hskip | hseen)
  · exact Bool.false_ne_true (h.2.2.symm.trans hskip)
  · exact h.2.1 hseen

theorem pass_of_not_admits (hlt : node < bound) (h : ¬ Admits bound skip seen node) :
    pass next skip ⟨node :: queue, seen, found⟩ = ⟨queue, seen, found⟩ := by
  refine if_pos ?_
  by_contra hneither
  rw [not_or] at hneither
  exact h ⟨hlt, hneither.2, Bool.eq_false_iff.2 hneither.1⟩

/-- Below a bound a search takes one pass for each node of its queue and for each successor of a
node that it finds. -/
theorem iterate_pass (hnext : ∀ a, ∀ b ∈ next a, b < bound) (hqueue : ∀ a ∈ queue, a < bound) :
    (pass next skip)^[queue.length +
        ((breadthFirst bound next skip seen queue).flatMap next).length] ⟨queue, seen, found⟩ =
      ⟨[], (breadthFirst bound next skip seen queue).reverse ++ seen,
        found ++ breadthFirst bound next skip seen queue⟩ := by
  fun_induction breadthFirst bound next skip seen queue generalizing found with
  | case1 seen =>
    rw [List.append_nil]
    rfl
  | case2 seen node queue hnew _ ih =>
    have hqueued : ∀ a ∈ queue ++ next node, a < bound := by
      intro a ha
      rcases List.mem_append.1 ha with ha | ha
      · exact hqueue a (List.mem_cons_of_mem _ ha)
      · exact hnext node a ha
    have hcount : ∀ rest : List Nat, (node :: queue).length + ((node :: rest).flatMap next).length =
        (queue ++ next node).length + (rest.flatMap next).length + 1 := by
      intro rest
      rw [List.flatMap_cons, List.length_append, List.length_append, List.length_cons]
      omega
    rw [hcount, Function.iterate_succ_apply, pass_of_admits hnew, ih hqueued, List.reverse_cons,
      List.append_assoc, List.append_assoc, List.singleton_append, List.singleton_append]
  | case3 seen node queue hold ih =>
    have hnode := hqueue node List.mem_cons_self
    rw [List.length_cons, Nat.add_right_comm, Function.iterate_succ_apply,
      pass_of_not_admits hnode hold, ih fun a ha => hqueue a (List.mem_cons_of_mem _ ha)]

/-- Below a bound a search ends with the nodes that `breadthFirst` lists. -/
theorem ends_breadthFirst (hnext : ∀ a, ∀ b ∈ next a, b < bound) (hqueue : ∀ a ∈ queue, a < bound) :
    Ends next skip ⟨queue, seen, []⟩ (breadthFirst bound next skip seen queue) :=
  ⟨_, _, iterate_pass hnext hqueue⟩

end Search

/-! ## Following successors -/

/-- A chase in progress. -/
structure Chase where
  current : Option Nat
  seen : List Nat
  found : List Nat := []

namespace Chase

/-- One pass: lists the current node and goes on to its successor, or breaks off at a node that has
been seen. Without a current node the loop is over. -/
def pass (next : Nat → Option Nat) : Chase → Chase
  | ⟨none, seen, found⟩ => ⟨none, seen, found⟩
  | ⟨some node, seen, found⟩ =>
    if node ∈ seen then ⟨none, seen, found⟩ else ⟨next node, node :: seen, found ++ [node]⟩

/-- After at most this many passes there is no current node, and these nodes have been found. -/
def EndsWithin (next : Nat → Option Nat) (limit : Nat) (s : Chase) (found : List Nat) : Prop :=
  ∃ passes ≤ limit, ∃ seen, (pass next)^[passes] s = ⟨none, seen, found⟩

variable {bound : Nat} {next : Nat → Option Nat} {node : Nat} {seen found : List Nat}

/-- Below a bound a chase takes one pass for each node that it finds, and one more if it comes back
to a node that it has seen. -/
theorem iterate_pass (hnext : ∀ a b, next a = some b → b < bound) :
    ∃ passes ≤ (chain bound next seen node).length + 1, ∃ seen',
      (pass next)^[passes] ⟨next node, seen, found⟩ =
        ⟨none, seen', found ++ chain bound next seen node⟩ := by
  fun_induction chain bound next seen node generalizing found with
  | case1 seen node hnone =>
    refine ⟨0, Nat.zero_le _, seen, ?_⟩
    rw [hnone, List.append_nil]
    rfl
  -- the successor is new
  | case2 seen node after hafter hnew _ ih =>
    obtain ⟨passes, hle, seen', hpasses⟩ := @ih (found ++ [after])
    refine ⟨passes + 1, ?_, seen', ?_⟩
    · rw [List.length_cons]
      exact Nat.succ_le_succ hle
    · have hpass : pass next ⟨some after, seen, found⟩ =
          ⟨next after, after :: seen, found ++ [after]⟩ := if_neg hnew.2
      rw [Function.iterate_succ_apply, hafter, hpass, hpasses, List.append_assoc,
        List.singleton_append]
  -- the successor lies below the bound, so it has been seen
  | case3 seen node after hafter hold =>
    have hseen : after ∈ seen :=
      Classical.not_not.1 fun hnot => hold ⟨hnext node after hafter, hnot⟩
    have hpass : pass next ⟨some after, seen, found⟩ = ⟨none, seen, found⟩ := if_pos hseen
    refine ⟨1, Nat.le_add_left 1 _, seen, ?_⟩
    rw [Function.iterate_one, hafter, hpass, List.append_nil]

/-- Below a bound a chase that has seen its start ends with the nodes that `chain` lists, after as
many passes as there are nodes below the bound at most. -/
theorem ends_chain (hnext : ∀ a b, next a = some b → b < bound ∧ a < bound) :
    EndsWithin next bound ⟨next node, [node], []⟩ (chain bound next [node] node) := by
  obtain ⟨passes, hle, seen, hpasses⟩ :=
    @iterate_pass bound next node [node] [] fun a b h => (hnext a b h).1
  cases hnode : next node with
  | none =>
    refine ⟨0, Nat.zero_le _, [node], ?_⟩
    rw [chain, hnode]
    rfl
  | some after =>
    -- the start and the nodes found are different nodes below the bound
    have hstart : node ∉ chain bound next [node] node := fun hmem =>
      notMem_seen_of_mem_chain hmem List.mem_cons_self
    have hbelow : (node :: chain bound next [node] node) ⊆ List.range bound := by
      intro a ha
      rw [List.mem_range]
      rcases List.mem_cons.1 ha with rfl | ha
      · exact (hnext a after hnode).2
      · obtain ⟨b, -, hb⟩ := Relation.TransGen.tail'_iff.1 (transGen_of_mem_chain ha)
        exact (hnext b a hb).1
    have hnodup : (node :: chain bound next [node] node).Nodup :=
      List.nodup_cons.2 ⟨hstart, nodup_chain⟩
    have hcount := (List.subperm_of_subset hnodup hbelow).length_le
    rw [List.length_range, List.length_cons] at hcount
    rw [hnode] at hpasses
    exact ⟨passes, Nat.le_trans hle hcount, seen, hpasses⟩

end Chase

end TypeAtlas.Walk
