import Mathlib.Data.List.Induction
import TypeAtlas.Graph.Link
import TypeAtlas.Proofs.Graph.Buckets

/-!
# Records of one name

Linking keeps the first record of each name. A record clashes if its structure is not that of the
first record of its name, and the first clash is what an import that does not allow conflicts fails
with (`dedupe_eq`). Having the same structure is an equivalence relation, so whether there is a
clash can be told from pairs of records (`forall_conflict?_eq_none_iff`), and neither the order of
the records nor further ones with a structure that is there already make a difference
(`dedupe_exact`).
-/

set_option autoImplicit false

namespace TypeAtlas

namespace ClassRecord

/-! ## The same structure -/

/-- Two records describe the same structure: the same kind, superclass and interfaces, and the same
names and descriptors of fields and of code units. -/
structure SameStructure (first second : ClassRecord) : Prop where
  kind : first.kind = second.kind
  superClass : first.superClass = second.superClass
  interfaces : first.interfaces = second.interfaces
  fields : first.fieldKeys = second.fieldKeys
  codeUnits : first.codeUnitKeys = second.codeUnitKeys

section Structure

variable {a b c : ClassRecord}

theorem SameStructure.refl (a : ClassRecord) : a.SameStructure a := ⟨rfl, rfl, rfl, rfl, rfl⟩

theorem SameStructure.symm (h : a.SameStructure b) : b.SameStructure a :=
  ⟨h.kind.symm, h.superClass.symm, h.interfaces.symm, h.fields.symm, h.codeUnits.symm⟩

theorem SameStructure.trans (h : a.SameStructure b) (h' : b.SameStructure c) :
    a.SameStructure c where
  kind := h.kind.trans h'.kind
  superClass := h.superClass.trans h'.superClass
  interfaces := h.interfaces.trans h'.interfaces
  fields := h.fields.trans h'.fields
  codeUnits := h.codeUnits.trans h'.codeUnits

/-- Records without a difference have the same structure. -/
theorem difference?_eq_none_iff : a.difference? b = none ↔ a.SameStructure b := by
  constructor
  · intro h
    unfold difference? at h
    split_ifs at h with hkind hsuper hinterfaces hfields hunits
    exact ⟨of_not_not hkind, of_not_not hsuper, of_not_not hinterfaces, of_not_not hfields,
      of_not_not hunits⟩
  · rintro ⟨hkind, hsuper, hinterfaces, hfields, hunits⟩
    simp [difference?, hkind, hsuper, hinterfaces, hfields, hunits]

end Structure

/-! ## Clashes -/

/-- The first record of a name. -/
def firstNamed (classes : List ClassRecord) (name : String) : Option ClassRecord :=
  classes.find? fun c => c.name == name

/-- The conflict of a record with the first record of its name. -/
def conflict? (classes : List ClassRecord) (c : ClassRecord) : Option IdentityConflict :=
  (firstNamed classes c.name).bind fun first =>
    (first.difference? c).map fun difference => ⟨c.name, difference⟩

section Conflicts

variable {classes : List ClassRecord} {c : ClassRecord} {conflict : IdentityConflict}

/-- For a record that is there, a first one of its name is found. -/
theorem exists_firstNamed (hc : c ∈ classes) :
    ∃ first ∈ classes, first.name = c.name ∧ firstNamed classes c.name = some first := by
  have hsome : (firstNamed classes c.name).isSome :=
    List.find?_isSome.2 ⟨c, hc, beq_self_eq_true _⟩
  obtain ⟨first, hfirst⟩ := Option.isSome_iff_exists.1 hsome
  have hname := List.find?_some hfirst
  exact ⟨first, List.mem_of_find?_eq_some hfirst, eq_of_beq hname, hfirst⟩

theorem name_of_firstNamed {name : String} (h : firstNamed classes name = some c) :
    c.name = name := by
  have hname := List.find?_some h
  exact eq_of_beq hname

/-- Records that follow do not change which record of a name is the first. -/
theorem firstNamed_append (hc : c ∈ classes) (more : List ClassRecord) :
    firstNamed (classes ++ more) c.name = firstNamed classes c.name := by
  obtain ⟨first, -, -, hfirst⟩ := exists_firstNamed hc
  have happend : firstNamed (classes ++ more) c.name =
      (firstNamed classes c.name).or (firstNamed more c.name) := List.find?_append
  rw [happend, hfirst, Option.some_or]

theorem conflict?_append (hc : c ∈ classes) (more : List ClassRecord) :
    conflict? (classes ++ more) c = conflict? classes c := by
  rw [conflict?, firstNamed_append hc, conflict?]

/-- Records that follow do not change the first conflict among those before them. -/
theorem findSome?_conflict?_append (classes more : List ClassRecord) :
    classes.findSome? (conflict? (classes ++ more)) = classes.findSome? (conflict? classes) := by
  rw [← List.head?_filterMap, ← List.head?_filterMap,
    List.filterMap_congr fun c hc => conflict?_append hc more]

theorem conflict?_eq_some_iff :
    conflict? classes c = some conflict ↔
      conflict.name = c.name ∧ ∃ first, firstNamed classes c.name = some first ∧
        first.difference? c = some conflict.difference := by
  simp only [conflict?, Option.bind_eq_some_iff, Option.map_eq_some_iff]
  constructor
  · rintro ⟨first, hfirst, difference, hdifference, rfl⟩
    exact ⟨rfl, first, hfirst, hdifference⟩
  · rintro ⟨hname, first, hfirst, hdifference⟩
    exact ⟨first, hfirst, _, hdifference, by rw [← hname]⟩

/-- A record is free of conflict if it has the structure of the first one of its name. -/
theorem conflict?_eq_none_iff {first : ClassRecord}
    (hfirst : firstNamed classes c.name = some first) :
    conflict? classes c = none ↔ first.SameStructure c := by
  rw [conflict?, hfirst, Option.bind_some, Option.map_eq_none_iff, difference?_eq_none_iff]

/-- No record is in conflict exactly if all records of one name have the same structure. -/
theorem forall_conflict?_eq_none_iff :
    (∀ c ∈ classes, conflict? classes c = none) ↔
      ∀ a ∈ classes, ∀ b ∈ classes, a.name = b.name → a.SameStructure b := by
  constructor
  · intro h a ha b hb hname
    -- both have the structure of the first record of their name
    obtain ⟨first, -, -, hfirst⟩ := exists_firstNamed ha
    have hsame := (conflict?_eq_none_iff hfirst).1 (h a ha)
    have hother := (conflict?_eq_none_iff (hname ▸ hfirst)).1 (h b hb)
    exact hsame.symm.trans hother
  · intro h c hc
    obtain ⟨first, hmem, hname, hfirst⟩ := exists_firstNamed hc
    exact (conflict?_eq_none_iff hfirst).2 (h first hmem c hc hname)

end Conflicts

/-! ## The records that are kept -/

section Dedupe

variable {policy : DuplicatePolicy} {classes more kept : List ClassRecord}

/-- What comes of records one after another is found by going through them in two parts. -/
theorem keepDistinct_append (policy : DuplicatePolicy) (kept classes more : List ClassRecord) :
    keepDistinct policy kept (classes ++ more) =
      (keepDistinct policy kept classes).bind fun kept => keepDistinct policy kept more := by
  induction classes generalizing kept with
  | nil => rfl
  | cons c rest ih =>
    rw [List.cons_append, keepDistinct, keepDistinct]
    cases kept.find? fun first => first.name == c.name with
    | none => exact ih (kept ++ [c])
    | some first =>
      cases hdifference : first.difference? c with
      | none => simpa [hdifference] using ih kept
      | some difference =>
        cases policy with
        | fail => simp [hdifference, Except.bind]
        | firstWins => simpa [hdifference] using ih kept

/-- A further record is kept if it has a new name, and refused if it is in conflict. -/
theorem keepDistinct_singleton (policy : DuplicatePolicy) (classes : List ClassRecord)
    (c : ClassRecord) :
    keepDistinct policy (distinctOn name classes) [c] =
      match policy, conflict? (classes ++ [c]) c with
      | .fail, some conflict => .error conflict
      | _, _ => .ok (distinctOn name (classes ++ [c])) := by
  have hfind : (distinctOn name classes).find? (fun first => first.name == c.name) =
      firstNamed classes c.name := find?_distinctOn name classes c.name
  have happend : firstNamed (classes ++ [c]) c.name =
      (firstNamed classes c.name).or (some c) := by
    simp [firstNamed]
  rw [keepDistinct, hfind, conflict?, happend, distinctOn_concat]
  cases hfirst : firstNamed classes c.name with
  | none =>
    -- a new name: the record is the first one, and does not differ from itself
    have hnew : c.name ∉ classes.map name := by
      intro hmem
      obtain ⟨other, hother, hname⟩ := List.mem_map.1 hmem
      exact List.find?_eq_none.1 hfirst other hother (beq_iff_eq.2 hname)
    have hself : c.difference? c = none := difference?_eq_none_iff.2 (SameStructure.refl c)
    simp [hnew, hself, keepDistinct]
  | some first =>
    have hold : c.name ∈ classes.map name :=
      List.mem_map.2 ⟨first, List.mem_of_find?_eq_some hfirst, name_of_firstNamed hfirst⟩
    cases hdifference : first.difference? c with
    | none => simp [hold, hdifference, keepDistinct]
    | some difference => cases policy <;> simp [hold, hdifference, keepDistinct]

/-- The first record of each name is kept, unless conflicts are not allowed and there is one. -/
theorem dedupe_eq (policy : DuplicatePolicy) (classes : List ClassRecord) :
    dedupe policy classes =
      match policy, classes.findSome? (conflict? classes) with
      | .fail, some conflict => .error conflict
      | _, _ => .ok (distinctOn name classes) := by
  induction classes using List.reverseRecOn with
  | nil => cases policy <;> rfl
  | append_singleton classes c ih =>
    rw [dedupe, keepDistinct_append, ← dedupe, ih, List.findSome?_append,
      findSome?_conflict?_append, List.findSome?_singleton]
    cases policy with
    | firstWins => exact keepDistinct_singleton .firstWins classes c
    | fail =>
      cases hfirst : classes.findSome? (conflict? classes) with
      | some conflict => rfl
      | none => exact keepDistinct_singleton .fail classes c

theorem dedupe_firstWins (classes : List ClassRecord) :
    dedupe .firstWins classes = .ok (distinctOn name classes) :=
  dedupe_eq .firstWins classes

/-- Whatever the policy, what is kept are the first records of each name. -/
theorem eq_distinctOn_of_dedupe (h : dedupe policy classes = .ok kept) :
    kept = distinctOn name classes := by
  rw [dedupe_eq] at h
  split at h
  · cases h
  · exact (Except.ok.inj h).symm

/-- If conflicts are not allowed, linking goes on exactly if all records of one name have the same
structure. -/
theorem exists_dedupe_fail_iff :
    (∃ kept, dedupe .fail classes = .ok kept) ↔
      ∀ a ∈ classes, ∀ b ∈ classes, a.name = b.name → a.SameStructure b := by
  rw [← forall_conflict?_eq_none_iff, ← List.findSome?_eq_none_iff, dedupe_eq]
  cases classes.findSome? (conflict? classes) with
  | none => simp
  | some conflict => simp

/-- If conflicts are not allowed, whether linking goes on does not depend on the order. -/
theorem exists_dedupe_fail_iff_of_perm {other : List ClassRecord} (h : classes.Perm other) :
    (∃ kept, dedupe .fail classes = .ok kept) ↔ ∃ kept, dedupe .fail other = .ok kept := by
  rw [exists_dedupe_fail_iff, exists_dedupe_fail_iff]
  simp only [h.mem_iff]

/-- Linking fails exactly if two records of one name differ in structure. -/
theorem exists_dedupe_fail_error_iff :
    (∃ conflict, dedupe .fail classes = .error conflict) ↔
      ∃ a ∈ classes, ∃ b ∈ classes, a.name = b.name ∧ ¬ a.SameStructure b := by
  have hok : (∃ kept, dedupe .fail classes = .ok kept) ↔
      ∀ a ∈ classes, ∀ b ∈ classes, a.name = b.name → a.SameStructure b := exists_dedupe_fail_iff
  have hboth : (∃ conflict, dedupe .fail classes = .error conflict) ↔
      ¬ ∃ kept, dedupe .fail classes = .ok kept := by
    cases dedupe .fail classes with
    | error conflict => simp
    | ok kept => simp
  rw [hboth, hok]
  push Not
  rfl

/-- A conflict is the first one: of the records that differ from the first record of their name it
concerns the first, and it says in what that one differs. -/
def IsFirstConflict (classes : List ClassRecord) (conflict : IdentityConflict) : Prop :=
  ∃ before c after first, classes = before ++ c :: after ∧
    firstNamed classes c.name = some first ∧ ¬ first.SameStructure c ∧
    (∀ earlier ∈ before, ∀ other, firstNamed classes earlier.name = some other →
      other.SameStructure earlier) ∧
    conflict.name = c.name ∧ first.difference? c = some conflict.difference

/-- What linking fails with is the first conflict. -/
theorem dedupe_fail_eq_error_iff {conflict : IdentityConflict} :
    dedupe .fail classes = .error conflict ↔ IsFirstConflict classes conflict := by
  have herror : dedupe .fail classes = .error conflict ↔
      classes.findSome? (conflict? classes) = some conflict := by
    rw [dedupe_eq]
    cases classes.findSome? (conflict? classes) with
    | none => simp
    | some other => simp
  rw [herror, List.findSome?_eq_some_iff]
  constructor
  · rintro ⟨before, c, after, hsplit, hconflict, hbefore⟩
    obtain ⟨hname, first, hfirst, hdifference⟩ := conflict?_eq_some_iff.1 hconflict
    refine ⟨before, c, after, first, hsplit, hfirst, ?_, ?_, hname, hdifference⟩
    · rw [← difference?_eq_none_iff, hdifference]
      exact Option.some_ne_none _
    · intro earlier he other hother
      exact (conflict?_eq_none_iff hother).1 (hbefore earlier he)
  · rintro ⟨before, c, after, first, hsplit, hfirst, -, hbefore, hname, hdifference⟩
    refine ⟨before, c, after, hsplit, conflict?_eq_some_iff.2 ⟨hname, first, hfirst, hdifference⟩,
      fun earlier he => ?_⟩
    obtain ⟨other, -, -, hother⟩ :=
      exists_firstNamed (hsplit ▸ List.mem_append_left (c :: after) he)
    exact (conflict?_eq_none_iff hother).2 (hbefore earlier he other hother)

/-- A list keeps of each name the first record, in the order of the records. -/
structure KeepsFirsts (classes kept : List ClassRecord) : Prop where
  sublist : kept.Sublist classes
  names : FirstOccurrences (classes.map name) (kept.map name)
  first : ∀ c ∈ kept, firstNamed classes c.name = some c
  distinct : (kept.map name).Nodup

theorem keepsFirsts_distinctOn (classes : List ClassRecord) :
    KeepsFirsts classes (distinctOn name classes) := by
  have hnames := map_distinctOn name classes
  have hnodup : ((distinctOn name classes).map name).Nodup := hnames ▸ nodup_distinct _
  refine ⟨distinctOn_sublist name classes, hnames ▸ firstOccurrences_distinct _, ?_, hnodup⟩
  intro c hc
  -- the first record of the name is kept too, and no other one of this name is
  obtain ⟨first, -, hname, hfirst⟩ := exists_firstNamed (mem_of_mem_distinctOn hc)
  have hmem : first ∈ distinctOn name classes := by
    rw [firstNamed, ← find?_distinctOn] at hfirst
    exact List.mem_of_find?_eq_some hfirst
  rw [hfirst, List.inj_on_of_nodup_map hnodup hmem hc hname]

/-- Whatever the policy, what is kept is the first record of each name. -/
theorem keepsFirsts_of_dedupe (h : dedupe policy classes = .ok kept) :
    KeepsFirsts classes kept := by
  rw [eq_distinctOn_of_dedupe h]
  exact keepsFirsts_distinctOn classes

/-- A record with the structure of one that is there makes no conflict if that one makes none. -/
theorem conflict?_of_sameStructure {a d : ClassRecord} (ha : a ∈ classes)
    (hfree : conflict? classes a = none) (hname : a.name = d.name) (h : a.SameStructure d) :
    conflict? (classes ++ more) d = none := by
  obtain ⟨first, -, -, hfirst⟩ := exists_firstNamed ha
  have happend := firstNamed_append ha more
  rw [hfirst, hname] at happend
  exact (conflict?_eq_none_iff happend).2 (((conflict?_eq_none_iff hfirst).1 hfree).trans h)

/-- Further records with structures that are there already change nothing. -/
theorem dedupe_append (policy : DuplicatePolicy)
    (hmore : ∀ d ∈ more, ∃ c ∈ classes, c.name = d.name ∧ c.SameStructure d) :
    dedupe policy (classes ++ more) = dedupe policy classes := by
  have hkept : distinctOn name (classes ++ more) = distinctOn name classes := by
    apply distinctOn_append_of_mem
    intro d hd
    obtain ⟨c, hc, hname, -⟩ := hmore d hd
    exact List.mem_map.2 ⟨c, hc, hname⟩
  rw [dedupe_eq, dedupe_eq, hkept, List.findSome?_append, findSome?_conflict?_append]
  cases hfirst : classes.findSome? (conflict? classes) with
  | some conflict => rfl
  | none =>
    -- none of the records was in conflict, so none of the further ones is
    have hnone : more.findSome? (conflict? (classes ++ more)) = none := by
      rw [List.findSome?_eq_none_iff] at hfirst ⊢
      intro d hd
      obtain ⟨c, hc, hname, hsame⟩ := hmore d hd
      exact conflict?_of_sameStructure hc (hfirst c hc) hname hsame
    rw [hnone, Option.or_none]

end Dedupe

/-- If conflicts are not allowed, linking fails exactly if two records of one name differ in
structure, and then with the first conflict; else it never fails. What is kept is the first record
of each name, under either policy. So further records with structures that are there already change
nothing, and the order of the records does not decide whether linking fails. -/
theorem dedupe_exact (classes : List ClassRecord) :
    ((∃ conflict, dedupe .fail classes = .error conflict) ↔
      ∃ a ∈ classes, ∃ b ∈ classes, a.name = b.name ∧ ¬ a.SameStructure b) ∧
    (∀ conflict, dedupe .fail classes = .error conflict ↔ IsFirstConflict classes conflict) ∧
    (∃ kept, dedupe .firstWins classes = .ok kept) ∧
    (∀ policy kept, dedupe policy classes = .ok kept → KeepsFirsts classes kept) ∧
    (∀ kept, dedupe .fail classes = .ok kept → dedupe .firstWins classes = .ok kept) ∧
    (∀ more, (∀ d ∈ more, ∃ c ∈ classes, c.name = d.name ∧ c.SameStructure d) →
      ∀ table policy,
        Graph.link table policy (classes ++ more) = Graph.link table policy classes) ∧
    ∀ other, classes.Perm other →
      ((∃ kept, dedupe .fail classes = .ok kept) ↔ ∃ kept, dedupe .fail other = .ok kept) := by
  refine ⟨exists_dedupe_fail_error_iff, fun conflict => dedupe_fail_eq_error_iff,
    ⟨_, dedupe_firstWins classes⟩, fun policy kept => keepsFirsts_of_dedupe, ?_, ?_,
    fun other => exists_dedupe_fail_iff_of_perm⟩
  · intro kept h
    rw [eq_distinctOn_of_dedupe h]
    exact dedupe_firstWins classes
  · intro more hmore table policy
    rw [Graph.link, dedupe_append policy hmore, Graph.link]

end ClassRecord

/-! ### Interleaved records -/

namespace Graph

/-- A method `m` without parameters. -/
def plainMethod : CodeUnit where
  kind := .method
  name := "m"
  descriptor := "()V"
  type := ⟨[], .void⟩
  modifiers := Modifiers.none
  signature := none
  throws := []
  annotations := []
  references := []

/-- A class directly below the root that has nothing but interfaces and code units. -/
def plainRecord (kind : ClassKind) (name : String) (interfaces : List String)
    (codeUnits : List CodeUnit) : ClassRecord where
  name
  simpleName := name
  kind
  modifiers := Modifiers.none
  majorVersion := 65
  superClass := some rootName
  interfaces
  enclosingClass := none
  sourceFile := none
  signature := none
  annotations := []
  fields := []
  codeUnits

end Graph

namespace ClassRecord

open TypeAtlas.Graph (plainMethod plainRecord)

/-- A class `A` and an interface `B`. -/
def pair : List ClassRecord :=
  [plainRecord .plain "A" [] [plainMethod], plainRecord .interface "B" [] [plainMethod]]

/-- `A` again, a `B` with another superinterface, and an `A` without its method. -/
def interleaved : List ClassRecord :=
  pair ++ [plainRecord .plain "A" [] [plainMethod], plainRecord .interface "B" ["A"] [plainMethod],
    plainRecord .plain "A" [] []]

/-- The second `B` is the first that differs, and the second `A` makes no difference. -/
theorem dedupe_interleaved :
    IsFirstConflict interleaved ⟨"B", .interfaces⟩ ∧
    (∃ kept, dedupe .firstWins interleaved = .ok kept ∧ KeepsFirsts interleaved kept) ∧
    ∀ table policy,
      Graph.link table policy (pair ++ [plainRecord .plain "A" [] [plainMethod]]) =
        Graph.link table policy pair := by
  obtain ⟨-, hconflict, ⟨kept, hkept⟩, hfirsts, -, -, -⟩ := dedupe_exact interleaved
  obtain ⟨-, -, -, -, -, hmore, -⟩ := dedupe_exact pair
  refine ⟨(hconflict _).1 rfl, ⟨kept, hkept, hfirsts _ _ hkept⟩, hmore _ ?_⟩
  intro d hd
  rw [List.mem_singleton] at hd
  exact ⟨_, List.mem_cons_self, by rw [hd], hd ▸ SameStructure.refl _⟩

end ClassRecord

end TypeAtlas
