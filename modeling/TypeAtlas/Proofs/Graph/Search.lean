import Mathlib.Data.List.Nodup
import Mathlib.Logic.Equiv.Basic
import Mathlib.Logic.Relation
import TypeAtlas.Graph.Walk

/-!
# What the walks visit

`breadthFirst` lists exactly the nodes that its queue leads to through nodes that it may visit
(`mem_breadthFirst_iff`), each of them once (`nodup_breadthFirst`), and it makes no difference
whether a node is skipped or has been seen (`breadthFirst_skip_eq`). `chain` lists nodes that lie
along the successors of its start (`transGen_of_mem_chain`), and all of them until they come back to
a node (`chain_closed`). Neither depends on what lies apart from its start (`chain_congr`,
`breadthFirst_congr_next`), nor on how the nodes are numbered (`chain_map`, `breadthFirst_map`).
-/

set_option autoImplicit false

namespace TypeAtlas.Walk

/-- A node that a search may visit: it is in range, has not been seen and is not to be skipped. -/
def Admits (bound : Nat) (skip : Nat → Bool) (seen : List Nat) (node : Nat) : Prop :=
  node < bound ∧ node ∉ seen ∧ skip node = false

/-- One step of a search: to a successor that it may visit. -/
def Step (bound : Nat) (next : Nat → List Nat) (skip : Nat → Bool) (seen : List Nat)
    (a b : Nat) : Prop :=
  b ∈ next a ∧ Admits bound skip seen b

section BreadthFirst

variable {bound : Nat} {next : Nat → List Nat} {skip : Nat → Bool} {seen queue : List Nat}

theorem Admits.of_cons {node other : Nat} (h : Admits bound skip (node :: seen) other) :
    Admits bound skip seen other :=
  ⟨h.1, fun hs => h.2.1 (List.mem_cons_of_mem _ hs), h.2.2⟩

theorem Admits.cons {node other : Nat} (h : Admits bound skip seen other) (hne : other ≠ node) :
    Admits bound skip (node :: seen) other := by
  refine ⟨h.1, fun hs => ?_, h.2.2⟩
  rcases List.mem_cons.1 hs with rfl | hs
  · exact hne rfl
  · exact h.2.1 hs

theorem breadthFirst_of_admits {node : Nat} (h : Admits bound skip seen node) :
    breadthFirst bound next skip seen (node :: queue) =
      node :: breadthFirst bound next skip (node :: seen) (queue ++ next node) := by
  rw [breadthFirst]
  exact dif_pos h

theorem breadthFirst_of_not_admits {node : Nat} (h : ¬ Admits bound skip seen node) :
    breadthFirst bound next skip seen (node :: queue) =
      breadthFirst bound next skip seen queue := by
  rw [breadthFirst]
  exact dif_neg h

/-- What a search visits is admissible. -/
theorem admits_of_mem_breadthFirst {x : Nat} (h : x ∈ breadthFirst bound next skip seen queue) :
    Admits bound skip seen x := by
  fun_induction breadthFirst bound next skip seen queue with
  | case1 seen =>
    -- empty queue
    simp at h
  | case2 seen node queue hnew _ ih =>
    -- `node` is visited, and its successors are queued
    rcases List.mem_cons.1 h with rfl | h
    · exact hnew
    · exact (ih h).of_cons
  | case3 seen node queue _ ih =>
    -- `node` is dropped
    exact ih h

theorem nodup_breadthFirst : (breadthFirst bound next skip seen queue).Nodup := by
  fun_induction breadthFirst bound next skip seen queue with
  | case1 seen => exact List.nodup_nil
  | case2 seen node queue hnew _ ih =>
    refine List.nodup_cons.2 ⟨fun h => ?_, ih⟩
    exact (admits_of_mem_breadthFirst h).2.1 List.mem_cons_self
  | case3 seen node queue _ ih => exact ih

/-- Everything that a search visits is reached from its queue. -/
theorem exists_reach_of_mem_breadthFirst {x : Nat}
    (h : x ∈ breadthFirst bound next skip seen queue) :
    ∃ q ∈ queue, Admits bound skip seen q ∧
      Relation.ReflTransGen (Step bound next skip seen) q x := by
  fun_induction breadthFirst bound next skip seen queue with
  | case1 seen => simp at h
  | case2 seen node queue hnew _ ih =>
    rcases List.mem_cons.1 h with rfl | h
    · exact ⟨x, List.mem_cons_self, hnew, .refl⟩
    · obtain ⟨q, hq, hadm, hreach⟩ := ih h
      -- a path that avoids `node` too is a path of the whole search
      have hreach' : Relation.ReflTransGen (Step bound next skip seen) q x :=
        Relation.ReflTransGen.mono (fun a b hab => ⟨hab.1, hab.2.of_cons⟩) _ _ hreach
      rcases List.mem_append.1 hq with hq | hq
      · exact ⟨q, List.mem_cons_of_mem _ hq, hadm.of_cons, hreach'⟩
      -- `q` was queued on behalf of `node`, so the path is one step longer
      · exact ⟨node, List.mem_cons_self, hnew, hreach'.head ⟨hq, hadm.of_cons⟩⟩
  | case3 seen node queue _ ih =>
    obtain ⟨q, hq, hrest⟩ := ih h
    exact ⟨q, List.mem_cons_of_mem _ hq, hrest⟩

/-- A search visits its queue, and with a node the successors of the node, as far as they are
admissible. -/
theorem breadthFirst_closed :
    (∀ q ∈ queue, Admits bound skip seen q → q ∈ breadthFirst bound next skip seen queue) ∧
      ∀ x ∈ breadthFirst bound next skip seen queue, ∀ y, Step bound next skip seen x y →
        y ∈ breadthFirst bound next skip seen queue := by
  fun_induction breadthFirst bound next skip seen queue with
  | case1 seen => simp
  | case2 seen node queue hnew _ ih =>
    obtain ⟨ihQueue, ihStep⟩ := ih
    -- a node other than the one just visited is still admissible afterwards
    have hlater : ∀ y, Admits bound skip seen y → y ∈ queue ++ next node →
        y ∈ node :: breadthFirst bound next skip (node :: seen) (queue ++ next node) := by
      intro y hy hmem
      by_cases hne : y = node
      · exact hne ▸ List.mem_cons_self
      · exact List.mem_cons_of_mem _ (ihQueue y hmem (hy.cons hne))
    refine ⟨fun q hq hadm => ?_, fun x hx y hxy => ?_⟩
    · rcases List.mem_cons.1 hq with rfl | hq
      · exact List.mem_cons_self
      · exact hlater q hadm (List.mem_append_left _ hq)
    · rcases List.mem_cons.1 hx with rfl | hx
      · exact hlater y hxy.2 (List.mem_append_right _ hxy.1)
      · by_cases hne : y = node
        · exact hne ▸ List.mem_cons_self
        · exact List.mem_cons_of_mem _ (ihStep x hx y ⟨hxy.1, hxy.2.cons hne⟩)
  | case3 seen node queue hold ih =>
    refine ⟨fun q hq hadm => ?_, ih.2⟩
    rcases List.mem_cons.1 hq with rfl | hq
    · exact absurd hadm hold
    · exact ih.1 q hq hadm

/-- A search visits exactly what its queue leads to. -/
theorem mem_breadthFirst_iff {x : Nat} :
    x ∈ breadthFirst bound next skip seen queue ↔
      ∃ q ∈ queue, Admits bound skip seen q ∧
        Relation.ReflTransGen (Step bound next skip seen) q x := by
  refine ⟨exists_reach_of_mem_breadthFirst, ?_⟩
  rintro ⟨q, hq, hadm, hreach⟩
  -- follow the path: each of its nodes is visited, so the next one is
  induction hreach with
  | refl => exact breadthFirst_closed.1 q hq hadm
  | tail _ hstep ih => exact breadthFirst_closed.2 _ ih _ hstep

/-- Only the admissible nodes matter to a search, not why the others are not. -/
theorem breadthFirst_congr {skip' : Nat → Bool} {seen' : List Nat}
    (h : ∀ y, Admits bound skip seen y ↔ Admits bound skip' seen' y) :
    breadthFirst bound next skip seen queue = breadthFirst bound next skip' seen' queue := by
  fun_induction breadthFirst bound next skip seen queue generalizing seen' with
  | case1 seen => rw [breadthFirst]
  | case2 seen node queue hnew _ ih =>
    have hnew' : Admits bound skip' seen' node := (h node).1 hnew
    have hcons : ∀ y,
        Admits bound skip (node :: seen) y ↔ Admits bound skip' (node :: seen') y := by
      intro y
      by_cases hne : y = node
      · subst hne
        exact ⟨fun hy => absurd List.mem_cons_self hy.2.1,
          fun hy => absurd List.mem_cons_self hy.2.1⟩
      · exact ⟨fun hy => ((h y).1 hy.of_cons).cons hne, fun hy => ((h y).2 hy.of_cons).cons hne⟩
    rw [breadthFirst_of_admits hnew', ih hcons]
  | case3 seen node queue hold ih =>
    have hold' : ¬ Admits bound skip' seen' node := fun hy => hold ((h node).2 hy)
    -- the node is dropped on both sides, for whatever reason
    rw [breadthFirst_of_not_admits hold', ih h]

/-- A node to skip may as well have been seen. -/
theorem breadthFirst_skip_eq (node : Nat) :
    breadthFirst bound next (· == node) [] queue =
      breadthFirst bound next (fun _ => false) [node] queue :=
  breadthFirst_congr fun y => by simp [Admits]

end BreadthFirst

section Chain

variable {bound : Nat} {next : Nat → Option Nat} {seen : List Nat} {node : Nat}

/-- The nodes of a chain lie along the successors of its start. -/
theorem transGen_of_mem_chain {x : Nat} (h : x ∈ chain bound next seen node) :
    Relation.TransGen (fun a b => next a = some b) node x := by
  fun_induction chain bound next seen node with
  | case1 =>
    -- no successor
    simp at h
  | case2 seen node after hnext hnew _ ih =>
    -- the successor is new
    rcases List.mem_cons.1 h with rfl | h
    · exact .single hnext
    · exact .head hnext (ih h)
  | case3 =>
    -- the successor is out of range or has been seen
    simp at h

theorem notMem_seen_of_mem_chain {x : Nat} (h : x ∈ chain bound next seen node) : x ∉ seen := by
  fun_induction chain bound next seen node with
  | case1 => simp at h
  | case2 seen node after hnext hnew _ ih =>
    rcases List.mem_cons.1 h with rfl | h
    · exact hnew.2
    · exact fun hs => ih h (List.mem_cons_of_mem _ hs)
  | case3 => simp at h

/-- A chain goes on until it would come back to what has been seen. -/
theorem chain_closed :
    (∀ x, next node = some x → x < bound → x ∈ seen ∨ x ∈ chain bound next seen node) ∧
      ∀ x ∈ chain bound next seen node, ∀ y, next x = some y → y < bound →
        y ∈ seen ∨ y ∈ chain bound next seen node := by
  fun_induction chain bound next seen node with
  | case1 seen node hnone =>
    refine ⟨fun x hx _ => ?_, fun x hx => absurd hx List.not_mem_nil⟩
    rw [hnone] at hx
    cases hx
  | case2 seen node after hafter hnew _ ih =>
    obtain ⟨ihStart, ihStep⟩ := ih
    -- what the rest of the chain counts as seen is `after` or was seen before
    have hweaken : ∀ y, y ∈ after :: seen ∨ y ∈ chain bound next (after :: seen) after →
        y ∈ seen ∨ y ∈ after :: chain bound next (after :: seen) after := by
      rintro y (hy | hy)
      · rcases List.mem_cons.1 hy with rfl | hy
        · exact Or.inr List.mem_cons_self
        · exact Or.inl hy
      · exact Or.inr (List.mem_cons_of_mem _ hy)
    refine ⟨fun x hx _ => ?_, fun x hx y hxy hlt => ?_⟩
    · rw [hafter] at hx
      cases hx
      exact Or.inr List.mem_cons_self
    · rcases List.mem_cons.1 hx with rfl | hx
      · exact hweaken y (ihStart y hxy hlt)
      · exact hweaken y (ihStep x hx y hxy hlt)
  | case3 seen node after hafter hold =>
    refine ⟨fun x hx hlt => ?_, fun x hx => absurd hx List.not_mem_nil⟩
    rw [hafter] at hx
    cases hx
    -- the successor is in range, so it has been seen
    exact Or.inl (by_contra fun hnot => hold ⟨hlt, hnot⟩)

/-- A chain lists each node once. -/
theorem nodup_chain : (chain bound next seen node).Nodup := by
  fun_induction chain bound next seen node with
  | case1 => exact List.nodup_nil
  | case2 seen node after hnext hnew _ ih =>
    exact List.nodup_cons.2 ⟨fun h => notMem_seen_of_mem_chain h List.mem_cons_self, ih⟩
  | case3 => exact List.nodup_nil

end Chain

/-! ## Agreement

A walk depends on the successors of what it can come to, and on nothing else. -/

section Agreement

variable {S : Nat → Prop} {bound bound' : Nat} (hbound : ∀ a, S a → (a < bound' ↔ a < bound))
include hbound

theorem chain_congr {next next' : Nat → Option Nat} (hnext : ∀ a, S a → next' a = next a)
    (hclosed : ∀ a b, S a → next a = some b → S b) {seen : List Nat} {node : Nat} (hnode : S node) :
    chain bound' next' seen node = chain bound next seen node := by
  fun_induction chain bound next seen node with
  | case1 seen node hnone => rw [chain, hnext node hnode, hnone]
  | case2 seen node after hafter hnew _ ih =>
    have hS := hclosed node after hnode hafter
    rw [chain, hnext node hnode, hafter]
    show (if _ : after < bound' ∧ after ∉ seen then _ else _) = _
    rw [dif_pos ⟨(hbound after hS).2 hnew.1, hnew.2⟩, ih hS]
  | case3 seen node after hafter hold =>
    have hS := hclosed node after hnode hafter
    rw [chain, hnext node hnode, hafter]
    show (if _ : after < bound' ∧ after ∉ seen then _ else _) = _
    rw [dif_neg fun h => hold ⟨(hbound after hS).1 h.1, h.2⟩]

theorem breadthFirst_congr_next {next next' : Nat → List Nat} {skip : Nat → Bool}
    (hnext : ∀ a, S a → next' a = next a) (hclosed : ∀ a, S a → ∀ b ∈ next a, S b)
    {seen queue : List Nat} (hqueue : ∀ a ∈ queue, S a) :
    breadthFirst bound' next' skip seen queue = breadthFirst bound next skip seen queue := by
  fun_induction breadthFirst bound next skip seen queue with
  | case1 seen => rw [breadthFirst]
  | case2 seen node queue hnew _ ih =>
    have hnode := hqueue node List.mem_cons_self
    have hnew' : Admits bound' skip seen node := ⟨(hbound node hnode).2 hnew.1, hnew.2⟩
    rw [breadthFirst_of_admits hnew', hnext node hnode, ih]
    -- what is queued afterwards was queued before or comes after `node`
    intro a ha
    rcases List.mem_append.1 ha with ha | ha
    · exact hqueue a (List.mem_cons_of_mem _ ha)
    · exact hclosed node hnode a ha
  | case3 seen node queue hold ih =>
    have hnode := hqueue node List.mem_cons_self
    have hold' : ¬ Admits bound' skip seen node := fun h => hold ⟨(hbound node hnode).1 h.1, h.2⟩
    rw [breadthFirst_of_not_admits hold', ih fun a ha => hqueue a (List.mem_cons_of_mem _ ha)]

end Agreement

/-! ## Renumbering

A walk only compares nodes, so on renumbered nodes it does the same. -/

section Renumbering

variable {ρ : Equiv.Perm Nat} {bound bound' : Nat} (hbound : ∀ a, ρ a < bound' ↔ a < bound)
include hbound

theorem chain_map {next next' : Nat → Option Nat} (hnext : ∀ a, next' (ρ a) = (next a).map ρ)
    (seen : List Nat) (node : Nat) :
    chain bound' next' (seen.map ρ) (ρ node) = (chain bound next seen node).map ρ := by
  fun_induction chain bound next seen node with
  | case1 seen node hnone =>
    rw [chain, hnext, hnone]
    rfl
  -- the successor is taken on both sides
  | case2 seen node after hafter hnew _ ih =>
    have hnew' : ρ after < bound' ∧ ρ after ∉ seen.map ρ :=
      ⟨(hbound after).2 hnew.1, fun h => hnew.2 ((List.mem_map_of_injective ρ.injective).1 h)⟩
    rw [chain, hnext, hafter]
    show (if _ : ρ after < bound' ∧ ρ after ∉ seen.map ρ then _ else _) = _
    rw [dif_pos hnew', List.map_cons, ← ih, List.map_cons]
  -- the successor is out of range or has been seen, on both sides
  | case3 seen node after hafter hold =>
    have hold' : ¬ (ρ after < bound' ∧ ρ after ∉ seen.map ρ) := fun h =>
      hold ⟨(hbound after).1 h.1, fun hmem => h.2 (List.mem_map_of_mem hmem)⟩
    rw [chain, hnext, hafter]
    show (if _ : ρ after < bound' ∧ ρ after ∉ seen.map ρ then _ else _) = _
    rw [dif_neg hold', List.map_nil]

variable {skip skip' : Nat → Bool} (hskip : ∀ a, skip' (ρ a) = skip a)
include hskip

theorem admits_map_iff {seen : List Nat} {node : Nat} :
    Admits bound' skip' (seen.map ρ) (ρ node) ↔ Admits bound skip seen node := by
  unfold Admits
  rw [hbound, hskip, List.mem_map_of_injective ρ.injective]

theorem breadthFirst_map {next next' : Nat → List Nat} (hnext : ∀ a, next' (ρ a) = (next a).map ρ)
    (seen queue : List Nat) :
    breadthFirst bound' next' skip' (seen.map ρ) (queue.map ρ) =
      (breadthFirst bound next skip seen queue).map ρ := by
  fun_induction breadthFirst bound next skip seen queue with
  | case1 seen =>
    rw [List.map_nil, breadthFirst]
  | case2 seen node queue hnew _ ih =>
    rw [List.map_cons, breadthFirst_of_admits ((admits_map_iff hbound hskip).2 hnew), hnext,
      List.map_cons, ← ih, List.map_cons, List.map_append]
  | case3 seen node queue hold ih =>
    rw [List.map_cons, breadthFirst_of_not_admits fun h => hold ((admits_map_iff hbound hskip).1 h),
      ih]

/-- If only the order of the successors differs, a search still visits the same nodes. -/
theorem breadthFirst_perm {next next' : Nat → List Nat}
    (hnext : ∀ a, (next' (ρ a)).Perm ((next a).map ρ)) {seen queue queue' : List Nat}
    (hqueue : queue'.Perm (queue.map ρ)) :
    (breadthFirst bound' next' skip' (seen.map ρ) queue').Perm
      ((breadthFirst bound next skip seen queue).map ρ) := by
  have hstep : ∀ a b, Step bound' next' skip' (seen.map ρ) (ρ a) (ρ b) ↔
      Step bound next skip seen a b := by
    intro a b
    unfold Step
    rw [(hnext a).mem_iff, List.mem_map_of_injective ρ.injective, admits_map_iff hbound hskip]
  have hreach : ∀ a b, Relation.ReflTransGen (Step bound' next' skip' (seen.map ρ)) (ρ a) (ρ b) ↔
      Relation.ReflTransGen (Step bound next skip seen) a b := by
    intro a b
    constructor
    -- a path of the renumbered search is pulled back node by node
    · intro h
      have hback := h.lift ρ.symm fun x y hxy =>
        (hstep (ρ.symm x) (ρ.symm y)).1 (by simpa using hxy)
      simpa [Function.onFun] using hback
    · exact fun h => h.lift ρ fun x y hxy => (hstep x y).2 hxy
  refine (List.perm_ext_iff_of_nodup nodup_breadthFirst
    (nodup_breadthFirst.map ρ.injective)).2 fun x => ?_
  obtain ⟨y, rfl⟩ := ρ.surjective x
  rw [List.mem_map_of_injective ρ.injective, mem_breadthFirst_iff, mem_breadthFirst_iff]
  constructor
  · rintro ⟨q, hq, hadm, hqy⟩
    obtain ⟨p, rfl⟩ := ρ.surjective q
    rw [hqueue.mem_iff, List.mem_map_of_injective ρ.injective] at hq
    exact ⟨p, hq, (admits_map_iff hbound hskip).1 hadm, (hreach p y).1 hqy⟩
  · rintro ⟨p, hp, hadm, hpy⟩
    refine ⟨ρ p, ?_, (admits_map_iff hbound hskip).2 hadm, (hreach p y).2 hpy⟩
    rw [hqueue.mem_iff]
    exact List.mem_map_of_mem hp

end Renumbering

end TypeAtlas.Walk
