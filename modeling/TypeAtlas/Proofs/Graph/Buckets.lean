import Mathlib.Data.List.Nodup
import Mathlib.Data.List.Perm.Basic
import Mathlib.Logic.Equiv.Basic
import TypeAtlas.Graph.Bucket

/-!
# Entries in buckets

A bucket of `distribute` holds the entries of its number in their order (`getElem?_distribute`), and
`distinctOn` keeps one entry for each key (`map_distinctOn`, `nodup_distinct`).
-/

set_option autoImplicit false

namespace TypeAtlas

section Lists

variable {α β γ δ : Type} {f : α → β} {k : γ → δ} {look : α → Option γ} {look' : β → Option δ}

theorem filterMap_map_of_comm (hlook : ∀ a, look' (f a) = (look a).map k) (list : List α) :
    (list.map f).filterMap look' = (list.filterMap look).map k := by
  rw [List.filterMap_map, List.map_filterMap]
  exact List.filterMap_congr fun a _ => hlook a

theorem findSome?_map_of_comm (hlook : ∀ a, look' (f a) = (look a).map k) (list : List α) :
    (list.map f).findSome? look' = (list.findSome? look).map k := by
  rw [List.findSome?_map, List.map_findSome?]
  congr 1
  funext a
  exact hlook a

end Lists

theorem filterMap_getElem?_range {α : Type} (list : List α) :
    (List.range list.length).filterMap (list[·]?) = list := by
  induction list with
  | nil => rfl
  | cons first rest ih =>
    rw [List.length_cons, List.range_succ_eq_map, List.filterMap_cons_some List.getElem?_cons_zero,
      List.filterMap_map]
    exact congrArg (first :: ·) ih

section Distribute

variable {α : Type}

/-- The entries of a number. -/
def bucket (entries : List (Nat × α)) (index : Nat) : List α :=
  (entries.filter fun entry => entry.1 == index).map Prod.snd

theorem getElem?_foldl_modify (entries : List (Nat × α)) (lists : Array (List α)) (index : Nat) :
    (entries.foldl (fun lists (i, entry) => lists.modify i (· ++ [entry])) lists)[index]? =
      lists[index]?.map (· ++ bucket entries index) := by
  induction entries generalizing lists with
  | nil => simp [bucket]
  | cons entry rest ih =>
    rw [List.foldl_cons, ih, Array.getElem?_modify]
    by_cases h : entry.1 = index
    -- the entry goes to the end of this bucket
    · rw [if_pos h, Option.map_map]
      have hbucket : bucket (entry :: rest) index = entry.2 :: bucket rest index := by
        simp [bucket, h]
      rw [hbucket]
      congr 1
      funext list
      simp
    -- the entry goes to another bucket
    · rw [if_neg h]
      have hbucket : bucket (entry :: rest) index = bucket rest index := by
        simp [bucket, h]
      rw [hbucket]

/-- A bucket holds the entries of its number. -/
theorem getElem?_distribute {size index : Nat} (h : index < size) (entries : List (Nat × α)) :
    (distribute size entries)[index]? = some (bucket entries index) := by
  unfold distribute
  rw [getElem?_foldl_modify, Array.getElem?_replicate, if_pos h]
  rfl

theorem getElem?_distribute_of_le {size index : Nat} (h : size ≤ index)
    (entries : List (Nat × α)) : (distribute size entries)[index]? = none := by
  unfold distribute
  rw [getElem?_foldl_modify, Array.getElem?_replicate, if_neg (Nat.not_lt_of_le h)]
  rfl

/-- There is a list for each number. -/
theorem size_distribute (size : Nat) (entries : List (Nat × α)) :
    (distribute size entries).size = size := by
  have hsize : ∀ lists : Array (List α),
      (entries.foldl (fun lists (i, entry) => lists.modify i (· ++ [entry])) lists).size =
        lists.size := by
    induction entries with
    | nil => exact fun _ => rfl
    | cons entry rest ih => exact fun lists => (ih _).trans Array.size_modify
  exact (hsize _).trans Array.size_replicate

theorem bucket_perm {entries entries' : List (Nat × α)} (h : entries.Perm entries')
    (index : Nat) : (bucket entries index).Perm (bucket entries' index) :=
  (h.filter _).map _

theorem bucket_flatMap {β : Type} (entriesOf : β → List (Nat × α)) (sources : List β)
    (index : Nat) :
    bucket (sources.flatMap entriesOf) index =
      sources.flatMap fun source => bucket (entriesOf source) index := by
  unfold bucket
  rw [List.filter_flatMap, List.map_flatMap]

/-- An entry that is sent to some buckets, to each of them once, stands once in each of them. -/
theorem bucket_map_const {indices : List Nat} (hnodup : indices.Nodup) (entry : α) (index : Nat) :
    bucket (indices.map fun i => (i, entry)) index = if index ∈ indices then [entry] else [] := by
  have hconst : bucket (indices.map fun i => (i, entry)) index =
      List.replicate (indices.count index) entry := by
    unfold bucket
    rw [List.filter_map, List.map_map, List.count_eq_length_filter]
    exact List.map_const'
  rw [hconst, hnodup.count]
  by_cases hmem : index ∈ indices
  · rw [if_pos hmem, if_pos hmem]
    rfl
  · rw [if_neg hmem, if_neg hmem]
    rfl

theorem bucket_concat (entries : List (Nat × α)) (entry : Nat × α) (index : Nat) :
    bucket (entries ++ [entry]) index =
      if entry.1 = index then bucket entries index ++ [entry.2] else bucket entries index := by
  unfold bucket
  rw [List.filter_append, List.map_append]
  by_cases h : entry.1 = index
  · simp [h]
  · simp [h]

/-- A bucket is empty if no entry has its number. -/
theorem bucket_eq_nil {entries : List (Nat × α)} {index : Nat}
    (h : index ∉ entries.map Prod.fst) : bucket entries index = [] := by
  rw [bucket, List.map_eq_nil_iff, List.filter_eq_nil_iff]
  intro entry hentry hindex
  exact h (List.mem_map.2 ⟨entry, hentry, eq_of_beq hindex⟩)

/-- Of entries that go where a key sends them, a bucket holds those with its key. -/
theorem bucket_filterMap {β : Type} (key : β → Option Nat) (entry : β → α) (sources : List β)
    (index : Nat) :
    bucket (sources.filterMap fun source => (key source).map fun i => (i, entry source)) index =
      (sources.filter fun source => key source = some index).map entry := by
  induction sources with
  | nil => rfl
  | cons source rest ih =>
    rw [List.filterMap_cons, List.filter_cons]
    cases hkey : key source with
    | none => simpa using ih
    | some i =>
      by_cases hi : i = index
      · simpa [bucket, hi] using ih
      · simpa [bucket, hi] using ih

/-- If no entry is dropped, every list is a bucket. -/
theorem getD_distribute {size : Nat} {entries : List (Nat × α)}
    (hlt : ∀ entry ∈ entries, entry.1 < size) (index : Nat) :
    (distribute size entries)[index]?.getD [] = bucket entries index := by
  by_cases h : index < size
  · rw [getElem?_distribute h, Option.getD_some]
  -- past the last list the bucket is empty
  · have hnot : index ∉ entries.map Prod.fst := by
      intro hmem
      obtain ⟨entry, hentry, rfl⟩ := List.mem_map.1 hmem
      exact h (hlt entry hentry)
    rw [getElem?_distribute_of_le (Nat.le_of_not_lt h), Option.getD_none, bucket_eq_nil hnot]

/-- Renaming the numbers and the entries renames the buckets. -/
theorem bucket_map {β : Type} (ρ : Equiv.Perm Nat) (f : α → β) (entries : List (Nat × α))
    (index : Nat) :
    bucket (entries.map fun entry => (ρ entry.1, f entry.2)) (ρ index) =
      (bucket entries index).map f := by
  have hkey : ((fun entry : Nat × β => entry.1 == ρ index) ∘
      fun entry : Nat × α => (ρ entry.1, f entry.2)) = fun entry => entry.1 == index := by
    funext entry
    rw [Bool.eq_iff_iff, Function.comp_apply, beq_iff_eq, beq_iff_eq, ρ.apply_eq_iff_eq]
  unfold bucket
  rw [List.filter_map, hkey, List.map_map, List.map_map]
  rfl

/-- Renaming the numbers and the entries renames what is distributed. -/
theorem distribute_map {β : Type} {ρ : Equiv.Perm Nat} {size size' : Nat}
    (hsize : ∀ index, ρ index < size' ↔ index < size) (f : α → β) (entries : List (Nat × α))
    (index : Nat) :
    (distribute size' (entries.map fun entry => (ρ entry.1, f entry.2)))[ρ index]?.getD [] =
      ((distribute size entries)[index]?.getD []).map f := by
  by_cases hlt : index < size
  · rw [getElem?_distribute hlt, getElem?_distribute ((hsize index).2 hlt), Option.getD_some,
      Option.getD_some, bucket_map ρ f]
  -- past the last bucket both are empty
  · rw [getElem?_distribute_of_le (Nat.le_of_not_lt hlt),
      getElem?_distribute_of_le (Nat.le_of_not_lt fun hlt' => hlt ((hsize index).1 hlt'))]
    rfl

theorem distribute_perm {entries entries' : List (Nat × α)} (h : entries.Perm entries')
    (size index : Nat) :
    ((distribute size entries)[index]?.getD []).Perm
      ((distribute size entries')[index]?.getD []) := by
  by_cases hlt : index < size
  · rw [getElem?_distribute hlt, getElem?_distribute hlt]
    exact bucket_perm h index
  · rw [getElem?_distribute_of_le (Nat.le_of_not_lt hlt),
      getElem?_distribute_of_le (Nat.le_of_not_lt hlt)]

/-- In another order, renamed entries are distributed to the same lists in another order. -/
theorem distribute_rename {β : Type} {ρ : Equiv.Perm Nat} {size size' : Nat}
    (hsize : ∀ index, ρ index < size' ↔ index < size) {f : α → β} {entries : List (Nat × α)}
    {entries' : List (Nat × β)}
    (h : entries'.Perm (entries.map fun entry => (ρ entry.1, f entry.2))) (index : Nat) :
    ((distribute size' entries')[ρ index]?.getD []).Perm
      (((distribute size entries)[index]?.getD []).map f) :=
  (distribute_perm h size' (ρ index)).trans (.of_eq (distribute_map hsize f entries index))

/-- A renaming that keeps a range permutes the range. -/
theorem range_perm {ρ : Equiv.Perm Nat} {size size' : Nat}
    (hsize : ∀ index, ρ index < size' ↔ index < size) :
    (List.range size').Perm ((List.range size).map ρ) := by
  refine (List.perm_ext_iff_of_nodup List.nodup_range
    (List.nodup_range.map ρ.injective)).2 fun index => ?_
  obtain ⟨index, rfl⟩ := ρ.surjective index
  rw [List.mem_map_of_injective ρ.injective, List.mem_range, List.mem_range, hsize]

section Arenas

variable {β : Type} {ρ : Equiv.Perm Nat} {nodes : Array α} {nodes' : Array β} {f : α → β}
  (h : ∀ index, nodes'[ρ index]? = nodes[index]?.map f)
include h

theorem lt_size_iff_of_rename (index : Nat) : ρ index < nodes'.size ↔ index < nodes.size := by
  have hnone : nodes'[ρ index]? = none ↔ nodes[index]? = none := by
    rw [h, Option.map_eq_none_iff]
  rw [Array.getElem?_eq_none_iff, Array.getElem?_eq_none_iff] at hnone
  omega

/-- Arenas with renamed nodes hold the same nodes. -/
theorem toList_perm_of_rename : nodes'.toList.Perm (nodes.toList.map f) := by
  have hsizes := range_perm (lt_size_iff_of_rename h)
  have hlook : ∀ index, nodes'.toList[ρ index]? = nodes.toList[index]?.map f := by
    intro index
    rw [Array.getElem?_toList, Array.getElem?_toList, h]
  rw [← filterMap_getElem?_range nodes'.toList, ← filterMap_getElem?_range nodes.toList,
    ← filterMap_map_of_comm hlook]
  exact hsizes.filterMap _

end Arenas

end Distribute

section Distinct

variable {α κ : Type} [DecidableEq κ]

/-- The keys of the entries kept are the keys, each once. -/
theorem map_distinctOn (key : α → κ) (entries : List α) :
    (distinctOn key entries).map key = distinct (entries.map key) := by
  unfold distinct
  induction entries with
  | nil => rfl
  | cons entry rest ih =>
    rw [List.map_cons, distinctOn, distinctOn, List.map_cons, ← ih, List.filter_map]
    rfl

/-- What is kept stands in the order in which it was there. -/
theorem distinctOn_sublist (key : α → κ) (entries : List α) :
    (distinctOn key entries).Sublist entries := by
  induction entries with
  | nil => exact List.Sublist.refl []
  | cons entry rest ih =>
    rw [distinctOn]
    exact (List.filter_sublist.trans ih).cons_cons entry

theorem mem_of_mem_distinctOn {key : α → κ} {entries : List α} {x : α}
    (h : x ∈ distinctOn key entries) : x ∈ entries :=
  (distinctOn_sublist key entries).subset h

/-- Of the entries with a key, the first is kept. -/
theorem find?_distinctOn (key : α → κ) (entries : List α) (k : κ) :
    (distinctOn key entries).find? (fun entry => key entry == k) =
      entries.find? fun entry => key entry == k := by
  induction entries with
  | nil => rfl
  | cons entry rest ih =>
    by_cases hkey : key entry = k
    · simp [distinctOn, hkey]
    -- behind an entry with another key, nothing with this key is dropped
    · have hbeq : (key entry == k) = false := beq_eq_false_iff_ne.2 hkey
      simp only [distinctOn, List.find?_cons, hbeq]
      rw [← ih, List.find?_filter]
      congr 1
      funext other
      by_cases hother : key other = k
      · simp [hother, Ne.symm hkey]
      · simp [hother]

/-- Entries with different keys are all kept. -/
theorem distinctOn_of_nodup {key : α → κ} {entries : List α} (h : (entries.map key).Nodup) :
    distinctOn key entries = entries := by
  induction entries with
  | nil => rfl
  | cons entry rest ih =>
    rw [List.map_cons, List.nodup_cons] at h
    rw [distinctOn, ih h.2, List.filter_eq_self.2]
    intro other hother
    have hne : key other ≠ key entry := by
      intro heq
      exact h.1 (heq ▸ List.mem_map_of_mem hother)
    simpa using hne

/-- Entries that follow do not change what is kept of the entries before. -/
theorem isPrefix_distinctOn (key : α → κ) (entries more : List α) :
    distinctOn key entries <+: distinctOn key (entries ++ more) := by
  induction entries with
  | nil => exact List.nil_prefix
  | cons entry rest ih =>
    rw [List.cons_append, distinctOn, distinctOn]
    exact List.cons_prefix_cons.2 ⟨rfl, ih.filter _⟩

theorem mem_distinct {entries : List κ} {x : κ} : x ∈ distinct entries ↔ x ∈ entries := by
  unfold distinct
  induction entries with
  | nil => rfl
  | cons entry rest ih =>
    rw [distinctOn, List.mem_cons, List.mem_cons, List.mem_filter, ih]
    by_cases h : x = entry
    · simp [h]
    · simp [h]

theorem nodup_distinct (entries : List κ) : (distinct entries).Nodup := by
  unfold distinct
  induction entries with
  | nil => exact List.nodup_nil
  | cons entry rest ih =>
    rw [distinctOn]
    refine List.nodup_cons.2 ⟨fun h => ?_, ih.filter _⟩
    simpa using (List.mem_filter.1 h).2

/-- A further entry is kept if its key has not occurred. -/
theorem distinctOn_concat (key : α → κ) (entries : List α) (x : α) :
    distinctOn key (entries ++ [x]) =
      if key x ∈ entries.map key then distinctOn key entries
      else distinctOn key entries ++ [x] := by
  induction entries with
  | nil => rfl
  | cons entry rest ih =>
    rw [List.cons_append, distinctOn, distinctOn, ih, List.map_cons]
    by_cases hrest : key x ∈ rest.map key
    · rw [if_pos hrest, if_pos (List.mem_cons_of_mem _ hrest)]
    · rw [if_neg hrest, List.filter_append]
      by_cases hentry : key x = key entry
      · simp [hentry]
      · have hnew : key x ∉ key entry :: rest.map key := by
          rw [List.mem_cons]
          exact not_or.2 ⟨hentry, hrest⟩
        rw [if_neg hnew]
        simp [hentry]

/-- Further entries whose keys have occurred are not kept. -/
theorem distinctOn_append_of_mem {key : α → κ} {entries more : List α}
    (h : ∀ x ∈ more, key x ∈ entries.map key) :
    distinctOn key (entries ++ more) = distinctOn key entries := by
  induction more generalizing entries with
  | nil => rw [List.append_nil]
  | cons x rest ih =>
    have hrest : ∀ y ∈ rest, key y ∈ (entries ++ [x]).map key := by
      intro y hy
      rw [List.map_append]
      exact List.mem_append_left _ (h y (List.mem_cons_of_mem x hy))
    rw [List.append_cons, ih hrest, distinctOn_concat, if_pos (h x List.mem_cons_self)]

theorem distinct_concat (entries : List κ) (x : κ) :
    distinct (entries ++ [x]) =
      if x ∈ entries then distinct entries else distinct entries ++ [x] := by
  have hconcat := distinctOn_concat id entries x
  rwa [List.map_id] at hconcat

/-- Renaming the entries renames those kept. -/
theorem distinct_map {κ' : Type} [DecidableEq κ'] {f : κ → κ'} (hf : Function.Injective f)
    (entries : List κ) : distinct (entries.map f) = (distinct entries).map f := by
  unfold distinct
  induction entries with
  | nil => rfl
  | cons entry rest ih =>
    rw [List.map_cons, distinctOn, distinctOn, List.map_cons, ih, List.filter_map]
    simp only [Function.comp_def, id_eq, ne_eq, hf.eq_iff]

theorem distinct_perm {entries entries' : List κ} (h : entries.Perm entries') :
    (distinct entries).Perm (distinct entries') :=
  (List.perm_ext_iff_of_nodup (nodup_distinct _) (nodup_distinct _)).2 fun x => by
    rw [mem_distinct, mem_distinct, h.mem_iff]

end Distinct

/-! ## First occurrences -/

/-- A list holds the entries of another one, each once, in the order in which they first occur. -/
structure FirstOccurrences {α : Type} [DecidableEq α] (entries list : List α) : Prop where
  mem : ∀ x, x ∈ list ↔ x ∈ entries
  order : list.Pairwise fun a b => entries.idxOf a < entries.idxOf b

theorem firstOccurrences_distinct {α : Type} [DecidableEq α] (entries : List α) :
    FirstOccurrences entries (distinct entries) := by
  refine ⟨fun x => mem_distinct, ?_⟩
  induction entries with
  | nil => exact List.Pairwise.nil
  | cons entry rest ih =>
    -- behind its head, the list has what differs from the head, one place later
    have hlater : ∀ {x}, x ∈ (distinct rest).filter (fun other => other ≠ entry) →
        (entry :: rest).idxOf x = rest.idxOf x + 1 := by
      intro x hx
      have hne : x ≠ entry := by simpa using (List.mem_filter.1 hx).2
      exact List.idxOf_cons_ne rest hne.symm
    show List.Pairwise _ (entry :: (distinct rest).filter fun other => other ≠ entry)
    refine List.pairwise_cons.2 ⟨fun x hx => ?_, ?_⟩
    · rw [List.idxOf_cons_self, hlater hx]
      exact Nat.succ_pos _
    · refine List.Pairwise.imp_of_mem (fun ha hb hab => ?_) (ih.filter _)
      rw [hlater ha, hlater hb]
      exact Nat.succ_lt_succ hab

end TypeAtlas
