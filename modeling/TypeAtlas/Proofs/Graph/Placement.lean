import Mathlib.Algebra.GroupWithZero.Nat
import Mathlib.Data.List.Nodup
import TypeAtlas.Graph.Link

/-!
# Where the nodes of a class stand

The members, the annotations and the accesses of a class take one block of consecutive numbers
each, and the blocks of the classes follow one another (`placeClasses_ids`). So the numbers of the
nodes in an arena count up from zero, and a node is found under its own number
(`getElem?_of_ids`).
-/

set_option autoImplicit false

namespace TypeAtlas

/-! ## Sizes of blocks -/

/-- The number of members of a class. -/
def ClassRecord.memberCount (c : ClassRecord) : Nat := c.declaredMembers.length

/-- The number of annotations of a class and of its members. -/
def ClassRecord.annotationCount (c : ClassRecord) : Nat :=
  c.annotations.length + (c.declaredMembers.map fun m => m.annotations.length).sum

/-- The number of accesses that the members of a class make. -/
def ClassRecord.accessCount (c : ClassRecord) : Nat :=
  (c.declaredMembers.map fun m => m.references.length).sum

/-- The numbering after a class. -/
def Numbering.pastClass (n : Numbering) (c : ClassRecord) : Numbering :=
  c.declaredMembers.foldl Numbering.pastMember (n.pastHead c)

/-- A class at a place. -/
def placeClass (start : Numbering) (c : ClassRecord) : PlacedClass :=
  ⟨start, c, placeMembers (start.pastHead c) c.declaredMembers⟩

theorem placeClasses_cons (start : Numbering) (c : ClassRecord) (rest : List ClassRecord) :
    placeClasses start (c :: rest) = placeClass start c :: placeClasses (start.pastClass c) rest :=
  rfl

theorem foldl_pastMember (n : Numbering) (members : List DeclaredMember) :
    members.foldl Numbering.pastMember n =
      ⟨n.members + members.length,
        n.annotations + (members.map fun m => m.annotations.length).sum,
        n.accesses + (members.map fun m => m.references.length).sum⟩ := by
  induction members generalizing n with
  | nil => rfl
  | cons m rest ih =>
    rw [List.foldl_cons, ih]
    simp only [Numbering.pastMember, List.length_cons, List.map_cons, List.sum_cons]
    congr 1 <;> omega

/-- A class moves each of the three counters past its block. -/
theorem pastClass_eq (n : Numbering) (c : ClassRecord) :
    n.pastClass c =
      ⟨n.members + c.memberCount, n.annotations + c.annotationCount,
        n.accesses + c.accessCount⟩ := by
  rw [Numbering.pastClass, foldl_pastMember]
  simp only [Numbering.pastHead, ClassRecord.memberCount, ClassRecord.annotationCount,
    ClassRecord.accessCount]
  congr 1
  omega

/-! ## Blocks -/

section Blocks

variable (pos : Numbering → Nat)

/-- The numbers given to the members of a class, one block for each, are consecutive. -/
theorem placeMembers_ids (count : DeclaredMember → Nat)
    (hpast : ∀ n m, pos (Numbering.pastMember n m) = pos n + count m) (n : Numbering)
    (members : List DeclaredMember) :
    ((placeMembers n members).flatMap fun p => List.range' (pos p.start) (count p.member)) =
      List.range' (pos n) (members.map count).sum := by
  induction members generalizing n with
  | nil => rfl
  | cons m rest ih =>
    -- the block of `m` ends where the blocks of the rest start
    rw [placeMembers, List.flatMap_cons, ih, hpast, List.map_cons, List.sum_cons,
      List.range'_append_1]

/-- The numbers given to the classes, one block for each, are consecutive. -/
theorem placeClasses_ids {count : ClassRecord → Nat} {ids : PlacedClass → List Nat}
    (hpast : ∀ n c, pos (Numbering.pastClass n c) = pos n + count c)
    (hids : ∀ n c, ids (placeClass n c) = List.range' (pos n) (count c)) (n : Numbering)
    (classes : List ClassRecord) :
    (placeClasses n classes).flatMap ids = List.range' (pos n) (classes.map count).sum := by
  induction classes generalizing n with
  | nil => rfl
  | cons c rest ih =>
    -- the block of `c` ends where the blocks of the rest start
    rw [placeClasses_cons, List.flatMap_cons, ih, hids, hpast, List.map_cons, List.sum_cons,
      List.range'_append_1]

end Blocks

/-- Placing keeps the classes in their order. -/
theorem map_record_placeClasses (n : Numbering) (classes : List ClassRecord) :
    (placeClasses n classes).map PlacedClass.record = classes := by
  induction classes generalizing n with
  | nil => rfl
  | cons c rest ih =>
    rw [placeClasses_cons, List.map_cons, ih]
    rfl

theorem placeClasses_append (n : Numbering) (classes more : List ClassRecord) :
    placeClasses n (classes ++ more) =
      placeClasses n classes ++ placeClasses (classes.foldl Numbering.pastClass n) more := by
  induction classes generalizing n with
  | nil => rfl
  | cons c rest ih =>
    rw [List.cons_append, placeClasses_cons, placeClasses_cons, ih, List.foldl_cons,
      List.cons_append]

/-- What is placed of a class follows from its start and its record. -/
theorem eq_placeClass_of_mem {n : Numbering} {classes : List ClassRecord} {p : PlacedClass}
    (h : p ∈ placeClasses n classes) : p = placeClass p.start p.record := by
  induction classes generalizing n with
  | nil => simp [placeClasses] at h
  | cons c rest ih =>
    rw [placeClasses_cons] at h
    rcases List.mem_cons.1 h with rfl | h
    · rfl
    · exact ih h

/-! ## Arenas -/

/-- The number at which a node stands in an arena numbered from zero on is its own. -/
theorem id_of_getElem? {α : Type} {id : α → Nat} {nodes : List α} {total : Nat}
    (hids : nodes.map id = List.range' 0 total) {i : Nat} {node : α}
    (h : nodes[i]? = some node) : id node = i := by
  have hmap : (nodes.map id)[i]? = some (id node) := by
    rw [List.getElem?_map, h, Option.map_some]
  rw [hids, List.getElem?_eq_some_iff] at hmap
  obtain ⟨hi, hget⟩ := hmap
  rw [← hget, List.getElem_range']
  omega

/-- A node of such an arena stands at its own number. -/
theorem getElem?_of_ids {α : Type} {id : α → Nat} {nodes : List α} {total : Nat}
    (hids : nodes.map id = List.range' 0 total) {node : α} (hmem : node ∈ nodes) :
    nodes[id node]? = some node := by
  obtain ⟨i, hi⟩ := List.getElem?_of_mem hmem
  rw [id_of_getElem? hids hi]
  exact hi

theorem map_fst_numbered {α : Type} (first : Nat) (list : List α) :
    (numbered first list).map Prod.fst = List.range' first list.length := by
  rw [numbered, List.map_fst_zip, numbersFor]
  simp [numbersFor]

namespace Link

variable (table : NameTable)

theorem map_id_annotationNodes (first : AnnotationId) (owner : AnnotationOwner)
    (annotations : List (AnnotationTree String)) :
    (annotationNodes table first owner annotations).map AnnotationNode.id =
      List.range' first annotations.length := by
  rw [annotationNodes, List.map_map, ← map_fst_numbered]
  rfl

theorem map_id_memberAccesses (keys : List TargetKey) (placed : PlacedMember) :
    (memberAccesses keys placed).map Access.id =
      List.range' placed.start.accesses placed.member.references.length := by
  rw [memberAccesses, List.map_map, ← map_fst_numbered]
  rfl

/-- The members of the classes are numbered from zero on. -/
theorem map_id_members (classes : List ClassRecord) :
    ((placeClasses {} classes).flatMap fun p => p.members.map (memberNode table p.record)).map
      MemberNode.id = List.range' 0 (classes.map ClassRecord.memberCount).sum := by
  rw [List.map_flatMap]
  refine placeClasses_ids Numbering.members (fun n c => by rw [pastClass_eq]) ?_ {} classes
  intro n c
  -- a member takes one number, so the blocks of the members are single numbers
  have hmembers := placeMembers_ids Numbering.members (fun _ => 1)
    (fun n m => rfl) (n.pastHead c) c.declaredMembers
  simp only [List.range'_one, List.map_const', List.sum_replicate_nat, Nat.mul_one] at hmembers
  rw [List.map_map, List.map_eq_flatMap]
  exact hmembers

/-- The annotations of the classes are numbered from zero on. -/
theorem map_id_annotations (classes : List ClassRecord) :
    ((placeClasses {} classes).flatMap (classAnnotations table)).map AnnotationNode.id =
      List.range' 0 (classes.map ClassRecord.annotationCount).sum := by
  rw [List.map_flatMap]
  refine placeClasses_ids Numbering.annotations (fun n c => by rw [pastClass_eq]) ?_ {}
    classes
  intro n c
  have hmembers := placeMembers_ids Numbering.annotations
    (fun m => m.annotations.length) (fun n m => rfl) (n.pastHead c) c.declaredMembers
  -- the annotations of the class come first, those of its members follow
  rw [classAnnotations, List.map_append, map_id_annotationNodes, List.map_flatMap]
  simp only [map_id_annotationNodes]
  rw [placeClass, hmembers]
  exact List.range'_append_1

/-- The accesses of the classes are numbered from zero on. -/
theorem map_id_accesses (keys : List TargetKey) (classes : List ClassRecord) :
    ((placeClasses {} classes).flatMap fun p => p.members.flatMap (memberAccesses keys)).map
      Access.id = List.range' 0 (classes.map ClassRecord.accessCount).sum := by
  rw [List.map_flatMap]
  refine placeClasses_ids Numbering.accesses (fun n c => by rw [pastClass_eq]) ?_ {}
    classes
  intro n c
  rw [List.map_flatMap]
  simp only [map_id_memberAccesses]
  exact placeMembers_ids Numbering.accesses (fun m => m.references.length)
    (fun n m => rfl) (n.pastHead c) c.declaredMembers

end Link

end TypeAtlas
