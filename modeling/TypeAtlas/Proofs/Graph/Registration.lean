import TypeAtlas.Proofs.Graph.Referenced

/-!
# Registering names one at a time

Linking can number each name when it comes across it: `NameTable.refer` returns the number of a name
and the table that follows, in which the components of an array type are numbered before it. The
table that follows a list of names is `entered`, and it depends on nothing else (`refer_eq`,
`referAll_eq`). Numbers given out earlier stay valid while the table grows (`idOf_entered_append`).
-/

set_option autoImplicit false

namespace TypeAtlas

theorem componentsFirst_of_some {name component : String}
    (h : Text.componentOf name = some component) :
    componentsFirst name.toList = componentsFirst component.toList ++ [name] := by
  rcases Option.map_eq_some_iff.1 h with ⟨text, htext, rfl⟩
  rw [componentsFirst]
  split
  · rename_i text' htext'
    rw [htext] at htext'
    cases htext'
    rw [String.toList_ofList, String.ofList_toList]
  · rename_i hnone
    rw [htext] at hnone
    cases hnone

theorem componentsFirst_of_none {name : String} (h : Text.componentOf name = none) :
    componentsFirst name.toList = [name] := by
  have hnone := Option.map_eq_none_iff.1 h
  rw [componentsFirst]
  split
  · rename_i text htext
    rw [hnone] at htext
    cases htext
  · rw [String.ofList_toList]

namespace NameTable

/-- Asking for a number leaves the table in which the name is numbered. -/
theorem getOrCreate_eq (table : NameTable) (name : String) :
    table.getOrCreate name = ((table.insert name).idOf name, table.insert name) := by
  simp only [getOrCreate, find?_eq]
  by_cases h : name ∈ table.names
  · simp only [h, if_true, insert, List.contains_iff_mem]
  · simp only [h, if_false, insert, List.contains_iff_mem, idOf, List.idxOf_append_of_notMem h,
      List.idxOf_cons_self, Nat.add_zero, size]

/-- Numbers a name, and before it the components of an array type. -/
def refer (table : NameTable) (name : String) : Nat × NameTable :=
  match h : Text.componentOf name with
  | some component =>
    have := length_componentOf h
    (table.refer component).2.getOrCreate name
  | none => table.getOrCreate name
termination_by name.length

/-- The table after the names of a list have been registered. -/
def entered (table : NameTable) (names : List String) : NameTable :=
  table.insertAll (names.flatMap fun name => componentsFirst name.toList)

section Entered

variable (table : NameTable)

@[simp] theorem entered_nil : table.entered [] = table := rfl

theorem insertAll_append (names more : List String) :
    (table.insertAll names).insertAll more = table.insertAll (names ++ more) := by
  simp only [insertAll, List.foldl_append]

@[simp] theorem entered_entered (names more : List String) :
    (table.entered names).entered more = table.entered (names ++ more) := by
  rw [entered, entered, entered, insertAll_append, List.flatMap_append]

theorem isPrefix_entered (names : List String) : table.names <+: (table.entered names).names :=
  isPrefix_insertAll _ _

theorem mem_entered {names : List String} {name : String} (h : name ∈ names) :
    name ∈ (table.entered names).names := by
  have hself := mem_componentsFirst name.toList
  rw [String.ofList_toList] at hself
  exact (mem_insertAll _ _).2 (Or.inr (List.mem_flatMap.2 ⟨name, h, hself⟩))

/-- A registered name keeps its number. -/
theorem idOf_entered_append {names : List String} {name : String} (h : name ∈ names)
    (more : List String) :
    (table.entered (names ++ more)).idOf name = (table.entered names).idOf name := by
  rw [← entered_entered]
  exact idOf_of_isPrefix (isPrefix_entered _ more) (mem_entered table h)

theorem insertAll_of_subset {names : List String} (h : ∀ name ∈ names, name ∈ table.names) :
    table.insertAll names = table := by
  induction names with
  | nil => rfl
  | cons name rest ih =>
    have hname : table.insert name = table := by
      rw [insert, if_pos (List.contains_iff_mem.2 (h name List.mem_cons_self))]
    show (table.insert name).insertAll rest = table
    rw [hname]
    exact ih fun other hother => h other (List.mem_cons_of_mem name hother)

/-- Registering names again changes nothing. -/
theorem entered_append_of_subset {names more : List String} (h : ∀ name ∈ more, name ∈ names) :
    table.entered (names ++ more) = table.entered names := by
  rw [← entered_entered]
  apply insertAll_of_subset
  intro name hname
  rcases List.mem_flatMap.1 hname with ⟨source, hsource, hname⟩
  exact (mem_insertAll _ _).2 (Or.inr (List.mem_flatMap.2 ⟨source, h source hsource, hname⟩))

/-- Registering a name numbers it behind its components. -/
theorem refer_eq (name : String) :
    table.refer name = ((table.entered [name]).idOf name, table.entered [name]) := by
  have hentered : table.entered [name] = table.insertAll (componentsFirst name.toList) := by
    rw [entered, List.flatMap_singleton]
  fun_induction refer table name with
  | case1 name component hcomponent hshorter ih =>
    have hinner : table.entered [component] =
        table.insertAll (componentsFirst component.toList) := by
      rw [entered, List.flatMap_singleton]
    rw [ih hinner, hinner, getOrCreate_eq, hentered, componentsFirst_of_some hcomponent,
      ← insertAll_append]
    rfl
  | case2 name hnone =>
    rw [getOrCreate_eq, hentered, componentsFirst_of_none hnone]
    rfl

end Entered

/-- Registers names one after another and returns their numbers. -/
def referAll (table : NameTable) : List String → List Nat × NameTable
  | [] => ([], table)
  | name :: rest =>
    let (id, table) := table.refer name
    let (ids, table) := table.referAll rest
    (id :: ids, table)

/-- Registered names have the numbers that they have in the end. -/
theorem referAll_eq (table : NameTable) (names : List String) :
    table.referAll names = (names.map (table.entered names).idOf, table.entered names) := by
  induction names generalizing table with
  | nil => rfl
  | cons name rest ih =>
    have hfirst := idOf_entered_append table (List.mem_singleton_self name) rest
    simp only [referAll, refer_eq, ih, entered_entered, List.singleton_append, List.map_cons]
      at hfirst ⊢
    rw [hfirst]

end NameTable

end TypeAtlas
