import TypeAtlas.Proofs.Graph.Placement
import TypeAtlas.Proofs.Graph.Reindex

/-!
# Blocks of classes

In what order classes are linked decides where the block of a class starts and nothing else. A
number in a block is told by the name of the class and an offset (`blockKeys`), so reordering the
classes moves it as `reindex` says (`reindex_blockKeys`), and a class is placed at its new start as
it was placed at the old one (`members_placeClass`).
-/

set_option autoImplicit false

namespace TypeAtlas

/-! ## Where a block starts -/

/-- The numbering before the class of a name, or after all classes if there is none. -/
def startOf (n : Numbering) : List ClassRecord → String → Numbering
  | [], _ => n
  | c :: rest, name => if c.name = name then n else startOf (n.pastClass c) rest name

theorem placeClasses_eq_map {n : Numbering} {classes : List ClassRecord}
    (hdistinct : (classes.map ClassRecord.name).Nodup) :
    placeClasses n classes = classes.map fun c => placeClass (startOf n classes c.name) c := by
  induction classes generalizing n with
  | nil => rfl
  | cons c rest ih =>
    rw [List.map_cons, List.nodup_cons] at hdistinct
    have hstart : startOf n (c :: rest) c.name = n := if_pos rfl
    rw [placeClasses_cons, ih hdistinct.2, List.map_cons, hstart]
    congr 1
    -- a later class has another name, so its block starts past that of `c`
    apply List.map_congr_left
    intro d hd
    have hne : c.name ≠ d.name := fun heq =>
      hdistinct.1 (heq ▸ List.mem_map_of_mem (f := ClassRecord.name) hd)
    rw [startOf, if_neg hne]

theorem find?_placeClasses (n : Numbering) (classes : List ClassRecord) (name : String) :
    (placeClasses n classes).find? (fun p => p.record.name == name) =
      (classes.find? fun c => c.name == name).map fun c =>
        placeClass (startOf n classes name) c := by
  induction classes generalizing n with
  | nil => rfl
  | cons c rest ih =>
    rw [placeClasses_cons, List.find?_cons, List.find?_cons, ih, startOf]
    by_cases h : c.name = name
    · have hbeq : (c.name == name) = true := beq_iff_eq.2 h
      simp only [placeClass, hbeq, if_pos h, Option.map_some]
    · have hbeq : (c.name == name) = false := beq_eq_false_iff_ne.2 h
      simp only [placeClass, hbeq, if_neg h]

/-- Which class has a name does not depend on the order of the classes. -/
theorem find?_perm {classes classes' : List ClassRecord} (hperm : classes.Perm classes')
    (hdistinct : (classes.map ClassRecord.name).Nodup) (name : String) :
    (classes'.find? fun c => c.name == name) = classes.find? fun c => c.name == name := by
  have hmem : ∀ (list : List ClassRecord), (list.map ClassRecord.name).Nodup → ∀ c,
      list.find? (fun c => c.name == name) = some c ↔ c ∈ list ∧ c.name = name := by
    intro list hlist c
    constructor
    · intro h
      have hbeq := List.find?_some h
      exact ⟨List.mem_of_find?_eq_some h, eq_of_beq hbeq⟩
    · rintro ⟨hc, hname⟩
      cases hfind : list.find? fun c => c.name == name with
      | none => exact absurd (beq_iff_eq.2 hname) (List.find?_eq_none.1 hfind c hc)
      | some d =>
        have hd := List.mem_of_find?_eq_some hfind
        have hbeq := List.find?_some hfind
        have hsame : d.name = c.name := (eq_of_beq hbeq).trans hname.symm
        -- two records of the list with one name are one record
        rw [List.inj_on_of_nodup_map hlist hd hc hsame]
  apply Option.ext
  intro c
  rw [hmem classes' ((hperm.map _).nodup_iff.1 hdistinct), hmem classes hdistinct, hperm.mem_iff]

/-! ## Numbers in a block -/

section Keys

variable (count : ClassRecord → Nat)

/-- The numbers of the blocks of classes, each as the name of its class and its offset. -/
def blockKeys (classes : List ClassRecord) : List (String × Nat) :=
  classes.flatMap fun c => (List.range (count c)).map fun offset => (c.name, offset)

theorem blockKeys_perm {classes classes' : List ClassRecord} (hperm : classes.Perm classes') :
    (blockKeys count classes).Perm (blockKeys count classes') :=
  hperm.flatMap_right _

theorem fst_of_mem_block {c : ClassRecord} {key : String × Nat}
    (h : key ∈ (List.range (count c)).map fun offset => (c.name, offset)) : key.1 = c.name := by
  obtain ⟨offset, -, rfl⟩ := List.mem_map.1 h
  rfl

theorem nodup_block (c : ClassRecord) :
    ((List.range (count c)).map fun offset => (c.name, offset)).Nodup :=
  List.nodup_range.map fun _ _ hab => (Prod.mk.inj hab).2

theorem idxOf_block {c : ClassRecord} {offset : Nat} (hoffset : offset < count c) :
    ((List.range (count c)).map fun k => (c.name, k)).idxOf (c.name, offset) = offset := by
  have hlt : offset < ((List.range (count c)).map fun k => (c.name, k)).length := by
    rw [List.length_map, List.length_range]
    exact hoffset
  have hplace := (nodup_block count c).idxOf_getElem offset hlt
  rwa [List.getElem_map, List.getElem_range] at hplace

theorem nodup_blockKeys {classes : List ClassRecord}
    (hdistinct : (classes.map ClassRecord.name).Nodup) : (blockKeys count classes).Nodup := by
  refine List.nodup_flatMap.2 ⟨fun c _ => nodup_block count c, ?_⟩
  refine (List.pairwise_map.1 hdistinct).imp fun {c d} hne => ?_
  intro key hc hd
  exact hne (fst_of_mem_block count hc ▸ fst_of_mem_block count hd)

/-- A number in the block of a class is its place among the keys of all blocks. -/
theorem add_startOf (pos : Numbering → Nat)
    (hpast : ∀ n c, pos (Numbering.pastClass n c) = pos n + count c) {n : Numbering}
    {classes : List ClassRecord} (hdistinct : (classes.map ClassRecord.name).Nodup)
    {c : ClassRecord} (hc : c ∈ classes) {offset : Nat} (hoffset : offset < count c) :
    pos (startOf n classes c.name) + offset =
      pos n + (blockKeys count classes).idxOf (c.name, offset) := by
  induction classes generalizing n with
  | nil => exact absurd hc List.not_mem_nil
  | cons first rest ih =>
    rw [List.map_cons, List.nodup_cons] at hdistinct
    rw [blockKeys, List.flatMap_cons, startOf]
    rcases List.mem_cons.1 hc with rfl | hc
    -- the block of the class itself
    · have hmem : (c.name, offset) ∈ (List.range (count c)).map fun k => (c.name, k) :=
        List.mem_map_of_mem (List.mem_range.2 hoffset)
      rw [if_pos rfl, List.idxOf_append_of_mem hmem, idxOf_block count hoffset]
    -- a block further on: that of `first` is skipped on both sides
    · have hne : first.name ≠ c.name := fun heq =>
        hdistinct.1 (heq ▸ List.mem_map_of_mem (f := ClassRecord.name) hc)
      have hnot : (c.name, offset) ∉ (List.range (count first)).map fun k => (first.name, k) :=
        fun h => hne (fst_of_mem_block count h).symm
      rw [if_neg hne, ih hdistinct.2 hc, hpast, List.idxOf_append_of_notMem hnot, List.length_map,
        List.length_range, blockKeys]
      omega

/-- Reordering the classes moves the numbers of a block from its old start to its new one. -/
theorem reindex_blockKeys (pos : Numbering → Nat) (hzero : pos {} = 0)
    (hpast : ∀ n c, pos (Numbering.pastClass n c) = pos n + count c)
    {classes classes' : List ClassRecord} (hperm : classes.Perm classes')
    (hdistinct : (classes.map ClassRecord.name).Nodup) {c : ClassRecord} (hc : c ∈ classes)
    {offset : Nat} (hoffset : offset < count c) :
    reindex (blockKeys_perm count hperm) (nodup_blockKeys count hdistinct)
        (pos (startOf {} classes c.name) + offset) =
      pos (startOf {} classes' c.name) + offset := by
  have hdistinct' := (hperm.map ClassRecord.name).nodup_iff.1 hdistinct
  rw [add_startOf count pos hpast hdistinct hc hoffset,
    add_startOf count pos hpast hdistinct' (hperm.mem_iff.1 hc) hoffset, hzero, Nat.zero_add,
    Nat.zero_add, reindex_idxOf]

end Keys

/-! ## The members of a block -/

/-- A place counted from a start. -/
def Numbering.add (n offset : Numbering) : Numbering :=
  ⟨n.members + offset.members, n.annotations + offset.annotations, n.accesses + offset.accesses⟩

/-- A member at a place counted from a start. -/
def PlacedMember.from (start : Numbering) (p : PlacedMember) : PlacedMember :=
  ⟨start.add p.start, p.member⟩

/-- The members of a class, counted from the start of its block. -/
def memberOffsets (c : ClassRecord) : List PlacedMember :=
  placeMembers (Numbering.pastHead {} c) c.declaredMembers

theorem placeMembers_add (n offset : Numbering) (members : List DeclaredMember) :
    placeMembers (n.add offset) members =
      (placeMembers offset members).map (PlacedMember.from n) := by
  induction members generalizing offset with
  | nil => rfl
  | cons m rest ih =>
    have hpast : (n.add offset).pastMember m = n.add (offset.pastMember m) := by
      simp only [Numbering.add, Numbering.pastMember, Nat.add_assoc]
    rw [placeMembers, placeMembers, List.map_cons, hpast, ih]
    rfl

theorem members_placeClass (start : Numbering) (c : ClassRecord) :
    (placeClass start c).members = (memberOffsets c).map (PlacedMember.from start) := by
  have hhead : start.pastHead c = start.add (Numbering.pastHead {} c) := by
    simp only [Numbering.add, Numbering.pastHead, Nat.zero_add, Nat.add_zero]
  rw [memberOffsets, ← placeMembers_add, ← hhead]
  rfl

/-- The block of a member lies between its place and the place after the last member. -/
theorem pastMember_le {n : Numbering} {members : List DeclaredMember} {p : PlacedMember}
    (h : p ∈ placeMembers n members) :
    (p.start.pastMember p.member).members ≤ (members.foldl Numbering.pastMember n).members ∧
      (p.start.pastMember p.member).annotations ≤
        (members.foldl Numbering.pastMember n).annotations ∧
      (p.start.pastMember p.member).accesses ≤ (members.foldl Numbering.pastMember n).accesses := by
  induction members generalizing n with
  | nil => exact absurd h List.not_mem_nil
  | cons m rest ih =>
    rw [List.foldl_cons]
    rcases List.mem_cons.1 h with rfl | h
    · rw [foldl_pastMember]
      exact ⟨Nat.le_add_right _ _, Nat.le_add_right _ _, Nat.le_add_right _ _⟩
    · exact ih h

/-- The numbers of a member are numbers in the block of its class. -/
theorem memberOffsets_le {c : ClassRecord} {p : PlacedMember} (h : p ∈ memberOffsets c) :
    p.start.members < c.memberCount ∧
      p.start.annotations + p.member.annotations.length ≤ c.annotationCount ∧
      p.start.accesses + p.member.references.length ≤ c.accessCount := by
  obtain ⟨hmembers, hannotations, haccesses⟩ := pastMember_le h
  have hend : c.declaredMembers.foldl Numbering.pastMember (Numbering.pastHead {} c) =
      Numbering.pastClass {} c := rfl
  rw [hend, pastClass_eq] at hmembers hannotations haccesses
  simp only [Numbering.pastMember, Nat.zero_add] at hmembers hannotations haccesses
  exact ⟨hmembers, hannotations, haccesses⟩

end TypeAtlas
