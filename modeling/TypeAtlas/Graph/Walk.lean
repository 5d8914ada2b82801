/-!
# Walking along numbered nodes

Two searches over nodes numbered below a bound: `chain` follows the one successor of each node, and
`breadthFirst` visits the successors of nodes in the order in which they are found. Both visit no
node twice, so they end on any graph, cyclic or not; the number of nodes not seen yet is what runs
out.
-/

set_option autoImplicit false

namespace TypeAtlas.Walk

/-- The number of nodes below a bound that have not been seen. -/
def unseen (bound : Nat) (seen : List Nat) : Nat :=
  (List.range bound).countP fun node => !seen.contains node

/-- A narrower condition that misses some member holds for fewer members. -/
theorem countP_lt_countP {narrow wide : Nat → Bool} (imp : ∀ n, narrow n = true → wide n = true)
    {nodes : List Nat} {node : Nat} (mem : node ∈ nodes) (holds : wide node = true)
    (misses : narrow node = false) : nodes.countP narrow < nodes.countP wide := by
  induction nodes with
  | nil => simp at mem
  | cons first rest ih =>
    have le : rest.countP narrow ≤ rest.countP wide :=
      List.countP_mono_left fun n _ h => imp n h
    rcases List.mem_cons.1 mem with rfl | later
    · simp only [List.countP_cons, holds, misses, if_true, Bool.false_eq_true, if_false]
      omega
    · have lt := ih later
      rw [List.countP_cons, List.countP_cons]
      cases hn : narrow first with
      | false =>
        rw [if_neg (by simp)]
        exact Nat.lt_of_lt_of_le lt (Nat.le_add_right _ _)
      | true =>
        rw [if_pos rfl, if_pos (imp first hn)]
        exact Nat.succ_lt_succ lt

/-- Seeing a new node below the bound leaves fewer unseen ones. -/
theorem unseen_cons_lt {bound node : Nat} {seen : List Nat} (below : node < bound)
    (new : node ∉ seen) : unseen bound (node :: seen) < unseen bound seen := by
  refine countP_lt_countP ?_ (List.mem_range.2 below) (by simpa using new) (by simp)
  intro n
  simp

/-- The successors of a node, one after another, up to the first that has been seen. -/
def chain (bound : Nat) (next : Nat → Option Nat) (seen : List Nat) (node : Nat) : List Nat :=
  match next node with
  | none => []
  | some after =>
    if new : after < bound ∧ after ∉ seen then
      have := unseen_cons_lt new.1 new.2
      after :: chain bound next (after :: seen) after
    else []
termination_by unseen bound seen

/-- The nodes of a queue and what they lead to, each where it is met first. Nodes that have been
seen are passed over, and so are those to skip. -/
def breadthFirst (bound : Nat) (next : Nat → List Nat) (skip : Nat → Bool) (seen : List Nat) :
    List Nat → List Nat
  | [] => []
  | node :: queue =>
    if new : node < bound ∧ node ∉ seen ∧ skip node = false then
      have := unseen_cons_lt new.1 new.2.1
      node :: breadthFirst bound next skip (node :: seen) (queue ++ next node)
    else breadthFirst bound next skip seen queue
termination_by queue => (unseen bound seen, queue.length)

end TypeAtlas.Walk
