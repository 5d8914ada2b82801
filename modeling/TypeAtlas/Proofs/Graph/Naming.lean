import Mathlib.Data.List.Nodup
import TypeAtlas.Graph.NameTable

/-!
# What a name table numbers

A table built by asking for names holds each of them once (`nodup_ofList`, `nodup_insertAll`), in
whatever order they were asked for (`mem_insertAll`), so a name has one number and a number has one
name (`idOf_inj`, `getElem?_idOf`).
-/

set_option autoImplicit false

namespace TypeAtlas.NameTable

variable (table : NameTable) (name : String) (names : List String)

theorem mem_insert_iff {other : String} :
    other ∈ (table.insert name).names ↔ other ∈ table.names ∨ other = name := by
  unfold insert
  split
  -- the name is there already, and the table stays
  · rename_i hmem
    have hname : name ∈ table.names := by simpa using hmem
    exact ⟨Or.inl, fun h => h.elim id fun heq => heq ▸ hname⟩
  · simp

theorem nodup_insert (h : table.names.Nodup) : (table.insert name).names.Nodup := by
  unfold insert
  split
  · exact h
  -- the name is new, and takes the next number
  · rename_i hmem
    have hname : name ∉ table.names := by simpa using hmem
    exact List.nodup_append.2 ⟨h, List.nodup_singleton name, by
      intro a ha b hb hab
      rw [List.mem_singleton] at hb
      exact hname (hb ▸ hab ▸ ha)⟩

theorem mem_insertAll {other : String} :
    other ∈ (table.insertAll names).names ↔ other ∈ table.names ∨ other ∈ names := by
  unfold insertAll
  induction names generalizing table with
  | nil => simp
  | cons first rest ih =>
    rw [List.foldl_cons, ih, mem_insert_iff, List.mem_cons, or_assoc]

theorem nodup_insertAll (h : table.names.Nodup) : (table.insertAll names).names.Nodup := by
  unfold insertAll
  induction names generalizing table with
  | nil => exact h
  | cons first rest ih => exact ih _ (nodup_insert table first h)

theorem nodup_ofList : (ofList names).names.Nodup :=
  nodup_insertAll {} names List.nodup_nil

theorem mem_ofList {other : String} : other ∈ (ofList names).names ↔ other ∈ names := by
  rw [ofList, mem_insertAll]
  simp

/-- Two tables into which the names of the other one are entered number the same names. -/
theorem insertAll_perm_insertAll (names names' entered entered' : List String) :
    (((ofList names).insertAll entered).insertAll (names' ++ entered')).names.Perm
      (((ofList names').insertAll entered').insertAll (names ++ entered)).names := by
  refine (List.perm_ext_iff_of_nodup ?_ ?_).2 fun name => ?_
  · exact nodup_insertAll _ _ (nodup_insertAll _ _ (nodup_ofList _))
  · exact nodup_insertAll _ _ (nodup_insertAll _ _ (nodup_ofList _))
  · simp only [mem_insertAll, mem_ofList, List.mem_append]
    tauto

variable {table}

/-- The number of a name leads back to the name. -/
theorem getElem?_idOf {name : String} (h : name ∈ table.names) :
    table.names[table.idOf name]? = some name := by
  rw [idOf, List.getElem?_eq_getElem (List.idxOf_lt_length_iff.2 h), List.getElem_idxOf]

/-- The name at a number has that number. -/
theorem idOf_of_getElem? {id : Nat} {name : String} (hnodup : table.names.Nodup)
    (h : table.names[id]? = some name) : table.idOf name = id := by
  obtain ⟨hlt, rfl⟩ := List.getElem?_eq_some_iff.1 h
  exact hnodup.idxOf_getElem id hlt

/-- A name in the table shares its number with no other name. -/
theorem idOf_inj {name other : String} (h : name ∈ table.names) :
    table.idOf name = table.idOf other ↔ name = other :=
  List.idxOf_inj h

/-- Names that are numbered later do not change the numbers of others. -/
theorem isPrefix_insertAll (table : NameTable) (names : List String) :
    table.names <+: (table.insertAll names).names := by
  unfold insertAll
  induction names generalizing table with
  | nil => exact List.prefix_refl _
  | cons first rest ih =>
    refine List.IsPrefix.trans ?_ (ih (table.insert first))
    unfold insert
    split
    · exact List.prefix_refl _
    · exact List.prefix_append _ _

theorem idOf_of_isPrefix {table' : NameTable} (hnames : table.names <+: table'.names) {name : String}
    (h : name ∈ table.names) : table'.idOf name = table.idOf name := by
  obtain ⟨more, hmore⟩ := hnames
  rw [idOf, ← hmore, List.idxOf_append_of_mem h, idOf]

theorem idxOf?_eq_ite (list : List String) :
    list.idxOf? name = if name ∈ list then some (list.idxOf name) else none := by
  induction list with
  | nil => rfl
  | cons first rest ih =>
    rw [List.idxOf?_cons, List.idxOf_cons, ih]
    by_cases h : first = name
    · simp [h]
    · have hne : ¬ name = first := fun heq => h heq.symm
      have hbeq : (first == name) = false := by simpa using h
      by_cases hmem : name ∈ rest <;> simp [hbeq, hne, hmem]

theorem find?_eq (table : NameTable) :
    table.find? name = if name ∈ table.names then some (table.idOf name) else none :=
  idxOf?_eq_ite name table.names

theorem find?_eq_some_iff {name : String} {id : Nat} :
    table.find? name = some id ↔ name ∈ table.names ∧ table.idOf name = id := by
  rw [find?_eq]
  by_cases h : name ∈ table.names
  · simp [h]
  · simp [h]

end TypeAtlas.NameTable
