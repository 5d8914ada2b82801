import Mathlib.Data.List.Pairwise
import Mathlib.Order.Bounds.Basic
import TypeAtlas.Proofs.Graph.Search

/-!
# The levels of a search

A breadth-first search meets nodes in the order of their distance. To see it, each node of the queue
carries the number of edges by which it was met (`leveled`); the walk itself is what is left without
these numbers (`map_fst_leveled`). The queue is in the order of the numbers, and they differ by at
most one (`Ordered`), so the nodes are listed in that order as well (`pairwise_leveled`), and no
node is met later than by way of any of its predecessors (`leveled_closed`). For a search from the
successors of some nodes the numbers are therefore distances: the least positive number of edges
that lead from those nodes (`isLeast_of_mem_leveled`).
-/

set_option autoImplicit false

namespace TypeAtlas.Walk

/-- A path of a number of edges. -/
inductive Path (next : Nat → List Nat) (a : Nat) : Nat → Nat → Prop where
  | nil : Path next a 0 a
  | snoc {edges b c : Nat} (h : Path next a edges b) (hstep : c ∈ next b) :
    Path next a (edges + 1) c

/-- The positive numbers of edges that lead from some nodes to a node. -/
def distances (next : Nat → List Nat) (starts : List Nat) (node : Nat) : Set Nat :=
  {edges | 0 < edges ∧ ∃ start ∈ starts, Path next start edges node}

/-- The successors of a node, with the level after its own. -/
def nextLevel (next : Nat → List Nat) (node level : Nat) : List (Nat × Nat) :=
  (next node).map fun successor => (successor, level + 1)

/-- The breadth-first search with the level of each node beside it. -/
def leveled (bound : Nat) (next : Nat → List Nat) (skip : Nat → Bool) (seen : List Nat) :
    List (Nat × Nat) → List (Nat × Nat)
  | [] => []
  | (node, level) :: queue =>
    if new : node < bound ∧ node ∉ seen ∧ skip node = false then
      have := unseen_cons_lt new.1 new.2.1
      (node, level) ::
        leveled bound next skip (node :: seen) (queue ++ nextLevel next node level)
    else leveled bound next skip seen queue
termination_by queue => (unseen bound seen, queue.length)

section Leveled

variable {bound : Nat} {next : Nat → List Nat} {skip : Nat → Bool} {seen : List Nat}
  {queue : List (Nat × Nat)} {node level low : Nat}

theorem map_fst_nextLevel : (nextLevel next node level).map Prod.fst = next node := by
  rw [nextLevel, List.map_map]
  exact List.map_id _

theorem mem_nextLevel {p : Nat × Nat} :
    p ∈ nextLevel next node level ↔ p.1 ∈ next node ∧ p.2 = level + 1 := by
  rw [nextLevel, List.mem_map]
  constructor
  · rintro ⟨successor, hmem, rfl⟩
    exact ⟨hmem, rfl⟩
  · rintro ⟨hmem, hlevel⟩
    exact ⟨p.1, hmem, by rw [← hlevel]⟩

/-- Without the levels, this is the search. -/
theorem map_fst_leveled : (leveled bound next skip seen queue).map Prod.fst =
    breadthFirst bound next skip seen (queue.map Prod.fst) := by
  fun_induction leveled bound next skip seen queue with
  | case1 seen => rw [List.map_nil, breadthFirst]
  | case2 seen node level queue hnew _ ih =>
    rw [List.map_cons, ih, List.map_cons, List.map_append, map_fst_nextLevel]
    exact (breadthFirst_of_admits hnew).symm
  | case3 seen node level queue hold ih =>
    rw [ih, List.map_cons]
    exact (breadthFirst_of_not_admits hold).symm

/-! ### Order -/

/-- The levels of a queue do not fall, and are at least `low` and at most one more. -/
structure Ordered (low : Nat) (queue : List (Nat × Nat)) : Prop where
  sorted : queue.Pairwise fun p q => p.2 ≤ q.2
  least : ∀ p ∈ queue, low ≤ p.2
  greatest : ∀ p ∈ queue, p.2 ≤ low + 1

theorem Ordered.tail {p : Nat × Nat} (h : Ordered low (p :: queue)) : Ordered low queue where
  sorted := (List.pairwise_cons.1 h.sorted).2
  least q hq := h.least q (List.mem_cons_of_mem _ hq)
  greatest q hq := h.greatest q (List.mem_cons_of_mem _ hq)

/-- After the visit of its first node, a queue is in order from the level of that node on. -/
theorem Ordered.visit (h : Ordered low ((node, level) :: queue)) :
    Ordered level (queue ++ nextLevel next node level) := by
  obtain ⟨hfirst, hsorted⟩ := List.pairwise_cons.1 h.sorted
  have hlow : low ≤ level := h.least _ List.mem_cons_self
  have hqueue : ∀ p ∈ queue, p.2 ≤ level + 1 := fun p hp =>
    (h.greatest p (List.mem_cons_of_mem _ hp)).trans (Nat.succ_le_succ hlow)
  have hnext : ∀ p ∈ nextLevel next node level, p.2 = level + 1 := fun p hp =>
    (mem_nextLevel.1 hp).2
  constructor
  · refine List.pairwise_append.2
      ⟨hsorted, ?_, fun p hp q hq => (hqueue p hp).trans (hnext q hq).ge⟩
    exact List.pairwise_of_forall_mem_list fun p hp q hq =>
      ((hnext p hp).trans (hnext q hq).symm).le
  · intro p hp
    rcases List.mem_append.1 hp with hp | hp
    · exact hfirst p hp
    · exact (Nat.le_succ level).trans (hnext p hp).ge
  · intro p hp
    rcases List.mem_append.1 hp with hp | hp
    · exact hqueue p hp
    · exact (hnext p hp).le

/-- Nodes are listed in the order of their levels. -/
theorem pairwise_leveled (h : Ordered low queue) :
    (leveled bound next skip seen queue).Pairwise (fun p q => p.2 ≤ q.2) ∧
      ∀ p ∈ leveled bound next skip seen queue, low ≤ p.2 := by
  fun_induction leveled bound next skip seen queue generalizing low with
  | case1 seen => exact ⟨List.Pairwise.nil, fun p hp => absurd hp List.not_mem_nil⟩
  | case2 seen node level queue hnew _ ih =>
    obtain ⟨hsorted, hleast⟩ := ih h.visit
    have hlow : low ≤ level := h.least _ List.mem_cons_self
    refine ⟨List.pairwise_cons.2 ⟨hleast, hsorted⟩, ?_⟩
    exact List.forall_mem_cons.2 ⟨hlow, fun p hp => hlow.trans (hleast p hp)⟩
  | case3 seen node level queue _ ih => exact ih h.tail

/-! ### Distances -/

/-- What holds of the queue, and of a successor at the next level, holds of all that is listed. -/
theorem forall_mem_leveled {P : Nat → Nat → Prop} (hqueue : ∀ p ∈ queue, P p.1 p.2)
    (hstep : ∀ a n, P a n → ∀ b ∈ next a, P b (n + 1)) :
    ∀ p ∈ leveled bound next skip seen queue, P p.1 p.2 := by
  fun_induction leveled bound next skip seen queue with
  | case1 seen => exact fun p hp => absurd hp List.not_mem_nil
  | case2 seen node level queue hnew _ ih =>
    obtain ⟨hnode, hrest⟩ := List.forall_mem_cons.1 hqueue
    refine List.forall_mem_cons.2 ⟨hnode, ih fun p hp => ?_⟩
    rcases List.mem_append.1 hp with hp | hp
    · exact hrest p hp
    · obtain ⟨hmem, hlevel⟩ := mem_nextLevel.1 hp
      exact hlevel ▸ hstep node level hnode p.1 hmem
  | case3 seen node level queue _ ih => exact ih (List.forall_mem_cons.1 hqueue).2

/-- A node of the queue is listed at its level or before, and a successor of a listed node at the
next level or before, as far as they are admissible. -/
theorem leveled_closed (h : Ordered low queue) :
    (∀ p ∈ queue, Admits bound skip seen p.1 →
      ∃ m ≤ p.2, (p.1, m) ∈ leveled bound next skip seen queue) ∧
    ∀ p ∈ leveled bound next skip seen queue, ∀ b ∈ next p.1, Admits bound skip seen b →
      ∃ m ≤ p.2 + 1, (b, m) ∈ leveled bound next skip seen queue := by
  fun_induction leveled bound next skip seen queue generalizing low with
  | case1 seen =>
    exact ⟨fun p hp => absurd hp List.not_mem_nil, fun p hp => absurd hp List.not_mem_nil⟩
  | case2 seen node level queue hnew _ ih =>
    obtain ⟨ihQueue, ihStep⟩ := ih h.visit
    -- the node just visited has the least level of all that follow
    have hleast : ∀ p ∈ leveled bound next skip (node :: seen) (queue ++ nextLevel next node level),
        level ≤ p.2 :=
      (pairwise_leveled h.visit).2
    have hlater : ∀ p ∈ queue ++ nextLevel next node level, Admits bound skip seen p.1 →
        ∃ m ≤ p.2, (p.1, m) ∈ (node, level) :: leveled bound next skip (node :: seen)
          (queue ++ nextLevel next node level) := by
      rintro ⟨b, n⟩ hp hadmits
      by_cases hne : b = node
      · subst hne
        exact ⟨level, h.visit.least _ hp, List.mem_cons_self⟩
      · obtain ⟨m, hle, hm⟩ := ihQueue _ hp (hadmits.cons hne)
        exact ⟨m, hle, List.mem_cons_of_mem _ hm⟩
    constructor
    · rintro p hp hadmits
      rcases List.mem_cons.1 hp with rfl | hp
      · exact ⟨level, Nat.le_refl _, List.mem_cons_self⟩
      · exact hlater p (List.mem_append_left _ hp) hadmits
    · rintro p hp b hb hadmits
      rcases List.mem_cons.1 hp with rfl | hp
      · exact hlater (b, level + 1) (List.mem_append_right _ (mem_nextLevel.2 ⟨hb, rfl⟩)) hadmits
      · by_cases hne : b = node
        · subst hne
          exact ⟨level, (hleast p hp).trans (Nat.le_succ _), List.mem_cons_self⟩
        · obtain ⟨m, hle, hm⟩ := ihStep p hp b hb (hadmits.cons hne)
          exact ⟨m, hle, List.mem_cons_of_mem _ hm⟩
  | case3 seen node level queue hold ih =>
    obtain ⟨ihQueue, ihStep⟩ := ih h.tail
    refine ⟨fun p hp hadmits => ?_, ihStep⟩
    rcases List.mem_cons.1 hp with rfl | hp
    · exact absurd hadmits hold
    · exact ihQueue p hp hadmits

end Leveled

/-! ## A search from the successors of some nodes -/

section FromStarts

variable {bound : Nat} {next : Nat → List Nat} {skip : Nat → Bool} {seen starts : List Nat}

/-- The successors of some nodes, at the first level. -/
def firstLevel (next : Nat → List Nat) (starts : List Nat) : List (Nat × Nat) :=
  starts.flatMap fun start => nextLevel next start 0

theorem map_fst_firstLevel : (firstLevel next starts).map Prod.fst = starts.flatMap next := by
  rw [firstLevel, List.map_flatMap]
  simp only [map_fst_nextLevel]

theorem mem_firstLevel {p : Nat × Nat} :
    p ∈ firstLevel next starts ↔ (∃ start ∈ starts, p.1 ∈ next start) ∧ p.2 = 1 := by
  simp only [firstLevel, List.mem_flatMap, mem_nextLevel, Nat.zero_add, ← and_assoc,
    exists_and_right]

theorem ordered_firstLevel : Ordered 1 (firstLevel next starts) := by
  have hone : ∀ p ∈ firstLevel next starts, p.2 = 1 := fun p hp => (mem_firstLevel.1 hp).2
  constructor
  · exact List.pairwise_of_forall_mem_list fun p hp q hq => ((hone p hp).trans (hone q hq).symm).le
  · exact fun p hp => (hone p hp).ge
  · exact fun p hp => (hone p hp).le.trans (Nat.le_succ 1)

/-- The level of a listed node is a number of edges that lead to it. -/
theorem level_mem_distances {p : Nat × Nat}
    (h : p ∈ leveled bound next skip seen (firstLevel next starts)) :
    p.2 ∈ distances next starts p.1 := by
  refine forall_mem_leveled (P := fun a n => n ∈ distances next starts a) ?_ ?_ p h
  · intro q hq
    obtain ⟨⟨start, hstart, hstep⟩, hlevel⟩ := mem_firstLevel.1 hq
    rw [hlevel]
    exact ⟨Nat.one_pos, start, hstart, Path.nil.snoc hstep⟩
  · rintro a n ⟨-, start, hstart, hpath⟩ b hb
    exact ⟨Nat.succ_pos n, start, hstart, hpath.snoc hb⟩

/-- A node that some edges lead to is listed at a level that is no greater, if all nodes are
admissible but starts. -/
theorem exists_level_le (hadmits : ∀ a, ∀ b ∈ next a, b ∈ starts ∨ Admits bound skip seen b)
    {start edges node : Nat} (hstart : start ∈ starts) (hpath : Path next start edges node)
    (hpos : 0 < edges) (hnode : Admits bound skip seen node) :
    ∃ m ≤ edges, (node, m) ∈ leveled bound next skip seen (firstLevel next starts) := by
  obtain ⟨hqueue, hstep⟩ :=
    @leveled_closed bound next skip seen (firstLevel next starts) 1 ordered_firstLevel
  -- the induction is on the path; a start on the way begins it anew
  induction hpath with
  | nil => exact absurd hpos (Nat.lt_irrefl 0)
  | @snoc edges b c hpath hlast ih =>
    have hfresh : b ∈ starts →
        ∃ m ≤ edges + 1, (c, m) ∈ leveled bound next skip seen (firstLevel next starts) := by
      intro hb
      obtain ⟨m, hle, hm⟩ := hqueue (c, 1) (mem_firstLevel.2 ⟨⟨b, hb, hlast⟩, rfl⟩) hnode
      exact ⟨m, hle.trans (Nat.le_add_left 1 edges), hm⟩
    cases hpath with
    | nil => exact hfresh hstart
    | @snoc edges a _ hpath hbefore =>
      rcases hadmits a b hbefore with hb | hb
      · exact hfresh hb
      · obtain ⟨m, hle, hm⟩ := ih (Nat.succ_pos edges) hb
        obtain ⟨m', hle', hm'⟩ := hstep _ hm c hlast hnode
        exact ⟨m', hle'.trans (Nat.succ_le_succ hle), hm'⟩

/-- The level of a listed node is the least positive number of edges that lead to it. -/
theorem isLeast_of_mem_leveled (hadmits : ∀ a, ∀ b ∈ next a, b ∈ starts ∨ Admits bound skip seen b)
    {p : Nat × Nat} (h : p ∈ leveled bound next skip seen (firstLevel next starts)) :
    IsLeast (distances next starts p.1) p.2 := by
  refine ⟨level_mem_distances h, ?_⟩
  rintro edges ⟨hpos, start, hstart, hpath⟩
  have hlisted : p.1 ∈ breadthFirst bound next skip seen (starts.flatMap next) := by
    rw [← map_fst_firstLevel, ← map_fst_leveled]
    exact List.mem_map_of_mem h
  obtain ⟨m, hle, hm⟩ := exists_level_le hadmits hstart hpath hpos
    (admits_of_mem_breadthFirst hlisted)
  -- a node is listed once, so it has one level
  have hnodup : ((leveled bound next skip seen (firstLevel next starts)).map Prod.fst).Nodup := by
    rw [map_fst_leveled]
    exact nodup_breadthFirst
  have hsame := List.inj_on_of_nodup_map hnodup hm h rfl
  rw [← hsame]
  exact hle

/-- A search from the successors of some nodes lists nodes in the order of their distances. -/
theorem pairwise_distances (hadmits : ∀ a, ∀ b ∈ next a, b ∈ starts ∨ Admits bound skip seen b) :
    (breadthFirst bound next skip seen (starts.flatMap next)).Pairwise fun a b =>
      ∀ m n, IsLeast (distances next starts a) m → IsLeast (distances next starts b) n →
        m ≤ n := by
  rw [← map_fst_firstLevel, ← map_fst_leveled, List.pairwise_map]
  refine List.Pairwise.imp_of_mem ?_ (pairwise_leveled ordered_firstLevel).1
  intro p q hp hq hle m n hm hn
  rw [hm.unique (isLeast_of_mem_leveled hadmits hp), hn.unique (isLeast_of_mem_leveled hadmits hq)]
  exact hle

/-- A search from the successors of some nodes lists the admissible nodes that edges lead to. -/
theorem mem_breadthFirst_starts_iff
    (hadmits : ∀ a, ∀ b ∈ next a, b ∈ starts ∨ Admits bound skip seen b) {node : Nat} :
    node ∈ breadthFirst bound next skip seen (starts.flatMap next) ↔
      Admits bound skip seen node ∧ (distances next starts node).Nonempty := by
  rw [← map_fst_firstLevel, ← map_fst_leveled, List.mem_map]
  constructor
  · rintro ⟨p, hp, rfl⟩
    refine ⟨?_, p.2, level_mem_distances hp⟩
    have hmem := List.mem_map_of_mem (f := Prod.fst) hp
    rw [map_fst_leveled] at hmem
    exact admits_of_mem_breadthFirst hmem
  · rintro ⟨hnode, edges, hpos, start, hstart, hpath⟩
    obtain ⟨m, -, hm⟩ := exists_level_le hadmits hstart hpath hpos hnode
    exact ⟨_, hm, rfl⟩

end FromStarts

end TypeAtlas.Walk
