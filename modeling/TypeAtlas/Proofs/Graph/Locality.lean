import TypeAtlas.Proofs.Graph.Extension
import TypeAtlas.Proofs.Graph.OrderIndependence

/-!
# Resolution is local

A class that is linked in addition can renumber everything, turn names into classes and make a type
an interface by calling its methods as such. A target still denotes the same member
(`resolve_inserted`), if the new class is neither its owner nor above it. Targets and members of two
graphs are compared by what they are called (`SameTarget`, `SameMember`), not by their numbers.
-/

set_option autoImplicit false

namespace TypeAtlas.Graph

/-! ## The same target, the same member -/

/-- Types of two graphs have the same name. -/
def SameType (g h : Graph) (a b : TypeId) : Prop :=
  ∃ node other, g.types[a]? = some node ∧ h.types[b]? = some other ∧ other.name = node.name

/-- Targets of two graphs have the same kind, the same name and descriptor, and owners of the same
name. -/
def SameTarget (g h : Graph) (id other : TargetId) : Prop :=
  ∃ target target', g.targets[id]? = some target ∧ h.targets[other]? = some target' ∧
    target'.kind = target.kind ∧ SameType g h target.owner target'.owner ∧
    target'.name = target.name ∧ target'.descriptor = target.descriptor

/-- Members of two graphs stand at the same position of types of the same name. -/
def SameMember (g h : Graph) (m other : MemberId) : Prop :=
  ∃ (a b : TypeId) (node node' : TypeNode) (position : Nat),
    g.types[a]? = some node ∧ h.types[b]? = some node' ∧ node'.name = node.name ∧
    node.members[position]? = some m ∧ node'.members[position]? = some other

/-- The same target denotes the same member in two graphs, or none in both. -/
structure SameAnswer (g h : Graph) (id other : TargetId) : Prop where
  target : SameTarget g h id other
  resolve : Option.Rel (SameMember g h) (g.resolve id) (h.resolve other)

section Relations

variable {g h k : Graph} {a b c : Nat}

theorem SameType.symm (hab : SameType g h a b) : SameType h g b a := by
  obtain ⟨node, other, hnode, hother, hname⟩ := hab
  exact ⟨other, node, hother, hnode, hname.symm⟩

theorem SameType.trans (hab : SameType g h a b) (hbc : SameType h k b c) : SameType g k a c := by
  obtain ⟨node, other, hnode, hother, hname⟩ := hab
  obtain ⟨other', last, hother', hlast, hname'⟩ := hbc
  rw [hother, Option.some.injEq] at hother'
  subst hother'
  exact ⟨node, last, hnode, hlast, hname'.trans hname⟩

theorem SameTarget.symm (hab : SameTarget g h a b) : SameTarget h g b a := by
  obtain ⟨target, target', htarget, htarget', hkind, howner, hname, hdescriptor⟩ := hab
  exact ⟨target', target, htarget', htarget, hkind.symm, howner.symm, hname.symm, hdescriptor.symm⟩

theorem SameTarget.trans (hab : SameTarget g h a b) (hbc : SameTarget h k b c) :
    SameTarget g k a c := by
  obtain ⟨target, middle, htarget, hmiddle, hkind, howner, hname, hdescriptor⟩ := hab
  obtain ⟨middle', last, hmiddle', hlast, hkind', howner', hname', hdescriptor'⟩ := hbc
  rw [hmiddle, Option.some.injEq] at hmiddle'
  subst hmiddle'
  exact ⟨target, last, htarget, hlast, hkind'.trans hkind, howner.trans howner',
    hname'.trans hname, hdescriptor'.trans hdescriptor⟩

theorem SameMember.symm (hab : SameMember g h a b) : SameMember h g b a := by
  obtain ⟨i, j, node, other, position, hnode, hother, hname, hm, hm'⟩ := hab
  exact ⟨j, i, other, node, position, hother, hnode, hname.symm, hm', hm⟩

/-- In a well-formed graph a member stands at one position of one type, so that comparisons through
the graph can be joined. -/
theorem SameMember.trans (hw : h.WellFormed) (hab : SameMember g h a b) (hbc : SameMember h k b c) :
    SameMember g k a c := by
  obtain ⟨i, j, node, middle, position, hnode, hmiddle, hname, ha, hb⟩ := hab
  obtain ⟨j', l, middle', last, position', hmiddle', hlast, hname', hb', hc⟩ := hbc
  have hlists := hw.owned.members j middle hmiddle
  obtain ⟨m, hm, howner⟩ := (hlists.2 b).1 (List.mem_of_getElem? hb)
  obtain ⟨m', hm', howner'⟩ := ((hw.owned.members j' middle' hmiddle').2 b).1
    (List.mem_of_getElem? hb')
  rw [hm, Option.some.injEq] at hm'
  subst hm'
  obtain rfl : j = j' := howner.symm.trans howner'
  rw [hmiddle, Option.some.injEq] at hmiddle'
  subst hmiddle'
  have hlt : position < middle.members.length := (List.getElem?_eq_some_iff.1 hb).1
  obtain rfl : position = position' := (List.getElem?_inj hlt hlists.1).1 (hb.trans hb'.symm)
  exact ⟨i, l, node, last, position, hnode, hlast, hname'.trans hname, ha, hc⟩

theorem SameAnswer.symm (hab : SameAnswer g h a b) : SameAnswer h g b a := by
  refine ⟨hab.target.symm, ?_⟩
  have hrel := hab.resolve
  generalize g.resolve a = left, h.resolve b = right at hrel
  cases hrel with
  | none => exact .none
  | some hm => exact .some hm.symm

theorem SameAnswer.trans (hw : h.WellFormed) (hab : SameAnswer g h a b)
    (hbc : SameAnswer h k b c) : SameAnswer g k a c := by
  refine ⟨hab.target.trans hbc.target, ?_⟩
  have hleft := hab.resolve
  have hright := hbc.resolve
  generalize g.resolve a = left, h.resolve b = middle, k.resolve c = right at hleft hright
  cases hleft with
  | none =>
    cases hright
    exact .none
  | some hm =>
    cases hright with
    | some hm' => exact .some (hm.trans hw hm')

/-- In a well-formed graph a type is found by its name. -/
theorem SameType.unique (hw : h.WellFormed) (hab : SameType g h a b) (hac : SameType g h a c) :
    b = c := by
  obtain ⟨node, other, hnode, hother, hname⟩ := hab
  obtain ⟨node', other', hnode', hother', hname'⟩ := hac
  rw [hnode, Option.some.injEq] at hnode'
  subst hnode'
  have hb := (hw.indexed.names node.name b).2 ⟨other, hother, hname⟩
  have hc := (hw.indexed.names node.name c).2 ⟨other', hother', hname'⟩
  exact Option.some.inj (hb.symm.trans hc)

/-- In a well-formed graph there is one target of a kind, an owner, a name and a descriptor. -/
theorem SameTarget.unique (hw : h.WellFormed) (hab : SameTarget g h a b)
    (hac : SameTarget g h a c) : b = c := by
  obtain ⟨target, left, htarget, hleft, hkind, howner, hname, hdescriptor⟩ := hab
  obtain ⟨target', right, htarget', hright, hkind', howner', hname', hdescriptor'⟩ := hac
  rw [htarget, Option.some.injEq] at htarget'
  subst htarget'
  have hkey : left.key = right.key := by
    simp only [AccessTarget.key, hkind, hkind', hname, hname', hdescriptor, hdescriptor',
      howner.unique hw howner']
  have hb : (h.targets.toList.map AccessTarget.key)[b]? = some left.key := by
    rw [List.getElem?_map, Array.getElem?_toList, hleft, Option.map_some]
  have hc : (h.targets.toList.map AccessTarget.key)[c]? = some left.key := by
    rw [List.getElem?_map, Array.getElem?_toList, hright, Option.map_some, hkey]
  have hlt := (List.getElem?_eq_some_iff.1 hb).1
  exact (List.getElem?_inj hlt hw.shared.distinct).1 (hb.trans hc.symm)

end Relations

/-! ## Graphs that give the same answers -/

section Linked

variable {table table' : NameTable} {classes more : List ClassRecord} {id : TargetId}
  {target : AccessTarget}

/-- A member that a target denotes is listed by a linked class. -/
theorem Linkable.exists_listed_of_resolve (L : Linkable table classes) {m : MemberId}
    (h : (build table classes).resolve id = some m) :
    ∃ (a : TypeId) (node : TypeNode), (build table classes).types[a]? = some node ∧
      m ∈ node.members ∧ ∃ c ∈ classes, c.name = node.name := by
  obtain ⟨target, -, htarget⟩ := Option.bind_eq_some_iff.1 h
  obtain ⟨found, hfound, -, hdenotes⟩ := exists_denotes_of_resolveTarget L.nodup htarget
  obtain ⟨p, hp, hname, -⟩ := exists_placed_of_mem hdenotes.preferred.mem
  obtain ⟨node, hnode, hnodeName⟩ := Option.map_eq_some_iff.1
    ((map_name_types_build table classes found.owner).trans hname)
  refine ⟨found.owner, node, hnode, ?_, p.record, record_mem_of_placed hp, hnodeName.symm⟩
  exact ((L.wellFormed.owned.members _ _ hnode).2 m).2 ⟨found, hfound, rfl⟩

/-- A target gives the same answer when further classes are linked, if these declare neither its
owner nor a type above it. -/
theorem Extended.sameAnswer (X : Extended table table' classes more)
    (hroot : PlainRoot classes ∨ more = []) (h : (build table classes).targets[id]? = some target)
    (hnew : (build table classes).Untouched more target.owner) :
    SameAnswer (build table classes) (build table' (classes ++ more)) id id := by
  constructor
  case target =>
    have howner := X.before.wellFormed.closed.owner_lt h
    obtain ⟨node, hnode⟩ : ∃ node, (build table classes).types[target.owner]? = some node :=
      ⟨_, Array.getElem?_eq_getElem howner⟩
    obtain ⟨other, hother, hkeeps, -⟩ := X.node hnode (hnew _ _ .refl hnode)
    exact ⟨target, target, h, X.getElem?_targets h, rfl, ⟨node, other, hnode, hother, hkeeps.name⟩,
      rfl, rfl⟩
  case resolve =>
    rw [X.resolve_eq hroot h hnew]
    cases hresolve : (build table classes).resolve id with
    | none => exact .none
    | some m =>
      refine .some ?_
      obtain ⟨a, node, hnode, hm, c, hc, hname⟩ := X.before.exists_listed_of_resolve hresolve
      -- the classes have different names, so none of the further ones declares this type
      have hother : ∀ c' ∈ more, c'.name ≠ node.name := by
        intro c' hc' hname'
        have hdistinct := X.after.distinct
        rw [List.map_append, List.nodup_append] at hdistinct
        exact hdistinct.2.2 _ (List.mem_map_of_mem hc) _ (List.mem_map_of_mem hc')
          (hname.trans hname'.symm)
      obtain ⟨other, hother, hkeeps, -⟩ := X.node hnode hother
      obtain ⟨position, hposition⟩ := List.getElem?_of_mem hm
      exact ⟨a, a, node, other, position, hnode, hother, hkeeps.name, hposition,
        hkeeps.members ▸ hposition⟩

/-- The same classes give the same answers on a larger table. -/
theorem Extended.sameAnswer_self (X : Extended table table' classes [])
    (h : (build table' classes).targets[id]? = some target) :
    SameAnswer (build table' classes) (build table classes) id id := by
  have htargets := X.targets_eq rfl
  rw [List.append_nil] at htargets
  rw [htargets] at h
  have hsame := X.sameAnswer (Or.inr rfl) h fun _ _ _ _ c hc => absurd hc List.not_mem_nil
  rw [List.append_nil] at hsame
  exact hsame.symm

/-- Graphs that are the same up to a renaming give the same answers. -/
theorem SameUpTo.sameAnswer {ρ : Renaming} {h : Graph} (L : Linkable table classes)
    (S : SameUpTo ρ (build table classes) h)
    (htarget : (build table classes).targets[id]? = some target) :
    SameAnswer (build table classes) h id (ρ.targets id) := by
  constructor
  case target =>
    have htarget' : h.targets[ρ.targets id]? = some (target.rename ρ) := by
      rw [S.targets, htarget, Option.map_some]
    refine ⟨target, target.rename ρ, htarget, htarget', rfl, ?_, rfl, rfl⟩
    have hlt := L.wellFormed.closed.owner_lt htarget
    rcases S.types_cases target.owner with ⟨hnone, -⟩ | ⟨node, below, -, hnode, hnode'⟩
    · exact absurd hlt (Nat.not_lt_of_ge (Array.getElem?_eq_none_iff.1 hnone))
    · exact ⟨node, node.rename ρ below, hnode, hnode', rfl⟩
  case resolve =>
    rw [S.resolve_rename]
    cases hresolve : (build table classes).resolve id with
    | none => exact .none
    | some m =>
      refine .some ?_
      obtain ⟨a, node, hnode, hm, -⟩ := L.exists_listed_of_resolve hresolve
      obtain ⟨position, hposition⟩ := List.getElem?_of_mem hm
      rcases S.types_cases a with ⟨hnone, -⟩ | ⟨node', below, -, hnode', hother⟩
      · rw [hnone] at hnode
        cases hnode
      · rw [hnode, Option.some.injEq] at hnode'
        subst hnode'
        refine ⟨a, ρ.types a, node, node.rename ρ below, position, hnode, hother, rfl, hposition,
          ?_⟩
        show (node.members.map ρ.members)[position]? = some (ρ.members m)
        rw [List.getElem?_map, hposition, Option.map_some]

end Linked

/-! ## A class in addition -/

theorem untouched_singleton {g : Graph} {d : ClassRecord} {type : TypeId}
    (h : ∀ a node, Relation.ReflTransGen g.Extends type a → g.types[a]? = some node →
      node.name ≠ d.name) : g.Untouched [d] type := by
  intro a node ha hnode c hc
  rw [List.mem_singleton.1 hc]
  exact (h a node ha hnode).symm

/-- A target gives the same answer when one more class is linked, in any order and on any names
numbered beforehand, if the class is neither the owner nor above it. -/
theorem exists_sameAnswer {names names' : List String} {classes classes' : List ClassRecord}
    {d : ClassRecord} (hperm : (classes ++ [d]).Perm classes')
    (hparsed : ∀ c ∈ classes', ∃ bytes, ClassRecord.parse bytes = .ok c)
    (hdistinct : (classes'.map ClassRecord.name).Nodup) (hroot : PlainRoot classes)
    {table table' : NameTable}
    (htable : table = (NameTable.ofList names).insertAll (mentions classes))
    (htable' : table' = (NameTable.ofList names').insertAll (mentions classes'))
    {id : TargetId} {target : AccessTarget}
    (htarget : (build table classes).targets[id]? = some target)
    (hnew : (build table classes).Untouched [d] target.owner) :
    ∃ other, SameAnswer (build table classes) (build table' classes') id other := by
  have hall : ((classes ++ [d]).map ClassRecord.name).Nodup :=
    (hperm.map ClassRecord.name).nodup_iff.2 hdistinct
  have hclasses : (classes.map ClassRecord.name).Nodup := by
    rw [List.map_append, List.nodup_append] at hall
    exact hall.1
  have L : Linkable table classes := htable ▸ linkable_insertAll hclasses
  have L' : Linkable table' classes' := htable' ▸ linkable_insertAll hdistinct
  have hmentions : ∀ name, name ∈ mentions (classes ++ [d]) ↔ name ∈ mentions classes' :=
    fun name => (mentions_perm hperm).mem_iff
  -- both tables are extended to all names of the other one
  have X : Extended table (table.insertAll (names' ++ mentions classes')) classes [d] := by
    refine .of_insertAll L hall fun name hname => (NameTable.mem_insertAll _ _).2 (Or.inr ?_)
    exact List.mem_append_right _ ((hmentions name).1 hname)
  have Y : Extended table' (table'.insertAll (names ++ mentions classes)) classes' [] := by
    refine .of_insertAll L' ?_ fun name hname => (NameTable.mem_insertAll _ _).2 (Or.inl ?_)
    · rwa [List.append_nil]
    · rw [List.append_nil] at hname
      exact L'.mentioned name hname
  have R : Reordered (table.insertAll (names' ++ mentions classes'))
      (table'.insertAll (names ++ mentions classes)) (classes ++ [d]) classes' := by
    have hnames := NameTable.insertAll_perm_insertAll names names' (mentions classes)
      (mentions classes')
    rw [← htable, ← htable'] at hnames
    exact ⟨X.after.nodup, hnames, hall, hperm,
      targetsAgree_of_parse fun c hc => hparsed c (hperm.mem_iff.1 hc)⟩
  have hextended := X.sameAnswer (Or.inl hroot) htarget hnew
  have hreordered := R.sameUpTo.sameAnswer X.after (X.getElem?_targets htarget)
  obtain ⟨-, target', -, htarget', -⟩ := hreordered.target
  have hshrunk := Y.sameAnswer_self htarget'
  have hfull := Y.after.wellFormed
  rw [List.append_nil] at hfull
  exact ⟨_, (hextended.trans X.after.wellFormed hreordered).trans hfull hshrunk⟩

/-- Resolution is local. A parsed class with a new name is linked in addition, wherever it is put
and whatever names were numbered beforehand. A target with an owner that the class neither is nor
lies above has one counterpart in the new graph. Both denote the member at the same position of
types of the same name, or both denote none. -/
theorem resolve_inserted {policy policy' : DuplicatePolicy} {names names' : List String}
    {before after : List ClassRecord} {d : ClassRecord}
    (hparsed : ∀ c ∈ before ++ d :: after, ∃ bytes, ClassRecord.parse bytes = .ok c)
    (hdistinct : ((before ++ after).map ClassRecord.name).Nodup)
    (hd : ∀ c ∈ before ++ after, c.name ≠ d.name) (hroot : PlainRoot (before ++ after)) :
    ∃ g h, link (NameTable.ofList names) policy (before ++ after) = .ok g ∧
      link (NameTable.ofList names') policy' (before ++ d :: after) = .ok h ∧
      ∀ id target, g.targets[id]? = some target →
        (∀ a node, Relation.ReflTransGen g.Extends target.owner a → g.types[a]? = some node →
          node.name ≠ d.name) →
        ∃ other, SameTarget g h id other ∧ (∀ rival, SameTarget g h id rival → rival = other) ∧
          Option.Rel (SameMember g h) (g.resolve id) (h.resolve other) := by
  have hperm : (before ++ after ++ [d]).Perm (before ++ d :: after) :=
    (List.perm_append_singleton d _).trans List.perm_middle.symm
  have hdistinct' : ((before ++ d :: after).map ClassRecord.name).Nodup := by
    refine (List.perm_middle.map ClassRecord.name).nodup_iff.2 (List.nodup_cons.2 ⟨?_, hdistinct⟩)
    intro hmem
    obtain ⟨c, hc, hname⟩ := List.mem_map.1 hmem
    exact hd c hc hname
  refine ⟨_, _, link_eq_ok_iff.2 ⟨_, dedupe_of_nodup hdistinct, rfl⟩,
    link_eq_ok_iff.2 ⟨_, dedupe_of_nodup hdistinct', rfl⟩, fun id target htarget hnew => ?_⟩
  obtain ⟨other, hsame⟩ := exists_sameAnswer hperm hparsed hdistinct' hroot rfl rfl htarget
    (untouched_singleton hnew)
  refine ⟨other, hsame.target, fun rival hrival => ?_, hsame.resolve⟩
  exact hrival.unique (linkable_insertAll hdistinct').wellFormed hsame.target

/-! ### A call that makes an interface -/

section Interface

open Assembly

/-- The root, with a method `m`. -/
def methodRoot : ClassSpec :=
  (ClassSpec.plain "java.lang.Object").withoutSuper.addMethod { name := "m", descriptor := "()V" }

/-- A class with a method that makes one call. -/
def calling (name : String) (call : Instruction) : ClassSpec :=
  (ClassSpec.plain name).addMethod
    (MethodSpec.withCode { name := "run", descriptor := "()V" } [call, .return])

/-- The method `m` of a type `X`. -/
def unknownMethod : Target := ⟨"X", "m", "()V"⟩

/-- The names in the root and in a class `A` that calls the method of `X`. -/
def callingNames : NameTable := ⟨["java.lang.Object", "A", "void", "X"]⟩

/-- The call denotes the method of the root. -/
theorem link_calling : ∃ root caller, ClassRecord.parse methodRoot.assemble = .ok root ∧
    ClassRecord.parse (calling "A" (.invokeVirtual unknownMethod)).assemble = .ok caller ∧
    ([root, caller].map ClassRecord.name = ["java.lang.Object", "A"] ∧
      root.superClass = none ∧ root.interfaces = [] ∧ root.fields.length = 0) ∧
    link (NameTable.ofList []) .fail [root, caller] = .ok (build callingNames [root, caller]) ∧
    (build callingNames [root, caller]).targets.size = 1 ∧
    (build callingNames [root, caller]).resolve 0 = some 0 := by
  obtain ⟨root, hroot, hcaller⟩ : ∃ root, ClassRecord.parse methodRoot.assemble = .ok root ∧
      ((ClassRecord.parse (calling "A" (.invokeVirtual unknownMethod)).assemble).map fun caller =>
        decide (([root, caller].map ClassRecord.name = ["java.lang.Object", "A"] ∧
          root.superClass = none ∧ root.interfaces = [] ∧ root.fields.length = 0) ∧
          [root, caller].flatMap ClassRecord.mentions =
            ["java.lang.Object", "void", "A", "java.lang.Object", "void", "X", "void"] ∧
          (build callingNames [root, caller]).targets.size = 1 ∧
          (build callingNames [root, caller]).resolve 0 = some 0)).toOption = some true :=
    exists_of_toOption_map (by decide +kernel)
  obtain ⟨caller, hcaller, hfacts⟩ := exists_of_toOption_map hcaller
  obtain ⟨hplain, hmentioned, hsize, hresolve⟩ := of_decide_eq_true hfacts
  refine ⟨root, caller, hroot, hcaller, hplain, ?_, hsize, hresolve⟩
  have hmentions : mentions [root, caller] = ["java.lang.Object", "java.lang.Object", "A",
      "java.lang.Object", "void", "A", "java.lang.Object", "void", "X", "void"] := by
    rw [mentions, hmentioned, hplain.1]
    cbv
  have hdistinct : ([root, caller].map ClassRecord.name).Nodup := by
    rw [hplain.1]
    decide
  exact link_of_mentions hdistinct hmentions rfl

/-- A class `D` between the two calls the method as one of an interface. In either graph the call of
`A` denotes the method of the root. -/
theorem resolve_inserted_calling : ∃ root caller d h m,
    ClassRecord.parse methodRoot.assemble = .ok root ∧
    ClassRecord.parse (calling "A" (.invokeVirtual unknownMethod)).assemble = .ok caller ∧
    ClassRecord.parse (calling "D" (.invokeInterface unknownMethod)).assemble = .ok d ∧
    link (NameTable.ofList []) .fail [root, caller] = .ok (build callingNames [root, caller]) ∧
    link (NameTable.ofList ["Y"]) .firstWins [root, d, caller] = .ok h ∧
    (build callingNames [root, caller]).resolve 0 = some 0 ∧
    ∃ other, SameTarget (build callingNames [root, caller]) h 0 other ∧
      h.resolve other = some m ∧ SameMember (build callingNames [root, caller]) h 0 m := by
  obtain ⟨root, caller, hroot, hcaller, ⟨hnames, hsuper, hinterfaces, hfields⟩, hlink, hsize,
    hresolve⟩ := link_calling
  obtain ⟨d, hd, hname⟩ : ∃ d, ClassRecord.parse
      (calling "D" (.invokeInterface unknownMethod)).assemble = .ok d ∧ d.name = "D" :=
    exists_of_toOption_map (by decide +kernel)
  have hparsed : ∀ c ∈ [root] ++ d :: [caller], ∃ bytes, ClassRecord.parse bytes = .ok c := by
    simp only [List.singleton_append, List.forall_mem_cons]
    exact ⟨⟨_, hroot⟩, ⟨_, hd⟩, ⟨_, hcaller⟩, fun c hc => absurd hc List.not_mem_nil⟩
  have hdistinct : (([root] ++ [caller]).map ClassRecord.name).Nodup := by
    rw [List.singleton_append, hnames]
    decide
  simp only [List.map_cons, List.map_nil, List.cons.injEq, and_true] at hnames
  have hnew : ∀ c ∈ [root] ++ [caller], c.name ≠ d.name := by
    simp [hnames, hname]
  have hplain : PlainRoot ([root] ++ [caller]) := by
    intro c hc hrootName
    rcases List.mem_cons.1 hc with rfl | hc
    · exact ⟨hsuper, hinterfaces, List.length_eq_zero_iff.1 hfields⟩
    · rw [List.mem_singleton.1 hc, hnames.2] at hrootName
      exact absurd hrootName (by decide)
  obtain ⟨g, h, hg, hh, hlocal⟩ :=
    @resolve_inserted .fail .firstWins [] ["Y"] [root] [caller] d hparsed hdistinct hnew hplain
  obtain rfl : build callingNames [root, caller] = g := Except.ok.inj (hlink.symm.trans hg)
  obtain ⟨target, htarget⟩ :
      ∃ target, (build callingNames [root, caller]).targets[0]? = some target :=
    ⟨_, Array.getElem?_eq_getElem (hsize ▸ Nat.zero_lt_one)⟩
  -- the name `D` is in neither class
  obtain ⟨other, hsame, -, hrel⟩ := hlocal 0 target htarget fun a node _ hnode hnodeName => by
    have hget := map_name_types_build callingNames [root, caller] a
    rw [hnode, Option.map_some, hnodeName, hname] at hget
    exact absurd (List.mem_of_getElem? hget.symm) (by decide)
  rw [hresolve] at hrel
  generalize hm : h.resolve other = found at hrel
  cases hrel with
  | some hmember =>
    exact ⟨root, caller, d, h, _, hroot, hcaller, hd, hlink, hh, hresolve, other, hsame, hm,
      hmember⟩

end Interface

end TypeAtlas.Graph
