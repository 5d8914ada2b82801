import Mathlib.Data.List.Nodup
import Mathlib.Data.List.Perm.Basic
import Mathlib.Logic.Equiv.Basic
import TypeAtlas.Proofs.Graph.Placement

/-!
# Places in reordered lists

When a list without repetitions is reordered, `reindex` sends the place of each entry to its new
place. Nodes that are numbered by their places are found again under the new numbers
(`getElem?_rename_of_ids`).
-/

set_option autoImplicit false

namespace TypeAtlas

section Places

/-- The place in another list of the entry at a place; places past the end stay. -/
def newPlace {α : Type} [BEq α] (list list' : List α) (index : Nat) : Nat :=
  match list[index]? with
  | some x => list'.idxOf x
  | none => index

variable {α : Type} [BEq α] [LawfulBEq α] {list list' : List α}

theorem newPlace_newPlace (hperm : list.Perm list') (hnodup : list.Nodup) (index : Nat) :
    newPlace list' list (newPlace list list' index) = index := by
  unfold newPlace
  cases hx : list[index]? with
  | none =>
    -- a place past the end of one list is past the end of the other
    have hlen : list'[index]? = none := by
      rw [List.getElem?_eq_none_iff] at hx ⊢
      exact hperm.length_eq ▸ hx
    rw [hlen]
  | some x =>
    obtain ⟨hlt, rfl⟩ := List.getElem?_eq_some_iff.1 hx
    -- the entry is found at its new place, and from there at its old one
    have hmem : list[index] ∈ list' := hperm.mem_iff.1 (List.getElem_mem hlt)
    simp only
    rw [List.getElem?_eq_getElem (List.idxOf_lt_length_iff.2 hmem), List.getElem_idxOf]
    exact hnodup.idxOf_getElem index hlt

/-- The permutation of places that follows the entries of a reordered list. -/
def reindex (hperm : list.Perm list') (hnodup : list.Nodup) : Equiv.Perm Nat where
  toFun := newPlace list list'
  invFun := newPlace list' list
  left_inv := newPlace_newPlace hperm hnodup
  right_inv := newPlace_newPlace hperm.symm (hperm.nodup_iff.1 hnodup)

/-- An entry has its new place in the reordered list. -/
theorem reindex_idxOf (hperm : list.Perm list') (hnodup : list.Nodup) (x : α) :
    reindex hperm hnodup (list.idxOf x) = list'.idxOf x := by
  show newPlace list list' (list.idxOf x) = list'.idxOf x
  unfold newPlace
  by_cases hx : x ∈ list
  · rw [List.getElem?_eq_getElem (List.idxOf_lt_length_iff.2 hx), List.getElem_idxOf]
  · have hx' : x ∉ list' := fun h => hx (hperm.mem_iff.2 h)
    rw [List.idxOf_eq_length hx, List.getElem?_eq_none (Nat.le_refl _), List.idxOf_eq_length hx',
      hperm.length_eq]

theorem getElem?_reindex (hperm : list.Perm list') (hnodup : list.Nodup) (index : Nat) :
    list'[reindex hperm hnodup index]? = list[index]? := by
  show list'[newPlace list list' index]? = list[index]?
  unfold newPlace
  cases hx : list[index]? with
  | none =>
    rw [List.getElem?_eq_none_iff] at hx ⊢
    exact hperm.length_eq ▸ hx
  | some x =>
    have hmem : x ∈ list' := hperm.mem_iff.1 (List.mem_of_getElem? hx)
    show list'[list'.idxOf x]? = some x
    rw [List.getElem?_eq_getElem (List.idxOf_lt_length_iff.2 hmem), List.getElem_idxOf]

theorem reindex_lt_iff (hperm : list.Perm list') (hnodup : list.Nodup) (index : Nat) :
    reindex hperm hnodup index < list'.length ↔ index < list.length := by
  have hnone : list'[reindex hperm hnodup index]? = none ↔ list[index]? = none := by
    rw [getElem?_reindex]
  rw [List.getElem?_eq_none_iff, List.getElem?_eq_none_iff] at hnone
  omega

/-- In the order that it has already, a list keeps its places. -/
theorem reindex_self (hperm : list.Perm list) (hnodup : list.Nodup) :
    reindex hperm hnodup = Equiv.refl Nat := by
  ext index
  show newPlace list list index = index
  unfold newPlace
  cases hx : list[index]? with
  | none => rfl
  | some x =>
    obtain ⟨hlt, rfl⟩ := List.getElem?_eq_some_iff.1 hx
    exact hnodup.idxOf_getElem index hlt

/-- If entries have different keys, they are numbered by the places of their keys. -/
theorem numbered_eq_map {β : Type} (key : β → α) {entries : List β}
    (hnodup : (entries.map key).Nodup) :
    numbered 0 entries = entries.map fun x => ((entries.map key).idxOf (key x), x) := by
  have hplaces : numbersFor 0 entries =
      entries.map fun x => (entries.map key).idxOf (key x) := by
    apply List.ext_getElem (by simp [numbersFor])
    intro index h h'
    have hlt : index < (entries.map key).length := by simpa using h'
    have hplace := hnodup.idxOf_getElem index hlt
    rw [List.getElem_map] at hplace
    rw [List.getElem_map, hplace]
    simp [numbersFor]
  rw [numbered, hplaces, List.map_prod_right_eq_zip]

end Places

section Arenas

variable {α β : Type} {ρ : Equiv.Perm Nat} {f : α → β} {id : α → Nat} {id' : β → Nat}
  {nodes : List α} {nodes' : List β} {total total' : Nat}

/-- In arenas that hold the same nodes with renamed numbers, a node is found under its new
number. -/
theorem getElem?_rename_of_ids (hids : nodes.map id = List.range' 0 total)
    (hids' : nodes'.map id' = List.range' 0 total') (hperm : nodes'.Perm (nodes.map f))
    (hid : ∀ x, id' (f x) = ρ (id x)) (index : Nat) :
    nodes'[ρ index]? = nodes[index]?.map f := by
  cases hx : nodes[index]? with
  | some x =>
    have hmem : f x ∈ nodes' := hperm.mem_iff.2 (List.mem_map_of_mem (List.mem_of_getElem? hx))
    have hget := getElem?_of_ids hids' hmem
    rw [hid, id_of_getElem? hids hx] at hget
    exact hget
  | none =>
    -- a node at the new number would come from one at the old number
    apply Option.eq_none_iff_forall_ne_some.2
    intro y hy
    obtain ⟨x, hmem, rfl⟩ := List.mem_map.1 (hperm.mem_iff.1 (List.mem_of_getElem? hy))
    have hindex := id_of_getElem? hids' hy
    rw [hid, ρ.apply_eq_iff_eq] at hindex
    have hget := getElem?_of_ids hids hmem
    rw [hindex, hx] at hget
    cases hget

end Arenas

end TypeAtlas
