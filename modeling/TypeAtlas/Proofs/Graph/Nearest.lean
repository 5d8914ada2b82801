import TypeAtlas.Proofs.Graph.Completeness

/-!
# Which member is found

The member that a target denotes matches the target and is declared where the search comes across a
match first (`resolve_nearest`): a field by the first type of its search space that has a field of
the name, a constructor by the owner, and a method of a class by the first class that declares it,
before any interface. An interface is searched before the interfaces above it, and these before the
root. Of several matches in one type, the one with the very descriptor is taken
(`Preferred`).
-/

set_option autoImplicit false

namespace TypeAtlas.Graph

/-! ## Firsts of a list -/

section First

variable {α β : Type} {P : α → Prop} {list : List α}

/-- An entry of a list has a property that no entry before it has. -/
def FirstWith (P : α → Prop) (list : List α) (a : α) : Prop :=
  P a ∧ ∃ before after, list = before ++ a :: after ∧ ∀ earlier ∈ before, ¬ P earlier

theorem FirstWith.mem {a : α} (h : FirstWith P list a) : a ∈ list := by
  obtain ⟨-, before, after, rfl, -⟩ := h
  exact List.mem_append_right before List.mem_cons_self

theorem FirstWith.of_cons {a b : α} (h : FirstWith P (a :: list) b) (hnot : ¬ P a) :
    FirstWith P list b := by
  obtain ⟨hb, before, after, hsplit, hbefore⟩ := h
  cases before with
  | nil =>
    cases hsplit
    exact absurd hb hnot
  | cons first before =>
    cases hsplit
    exact ⟨hb, before, after, rfl, fun x hx => hbefore x (List.mem_cons_of_mem _ hx)⟩

theorem firstWith_of_find? {p : α → Bool} {a : α} (hp : ∀ x, p x = true ↔ P x)
    (h : list.find? p = some a) : FirstWith P list a := by
  obtain ⟨ha, before, after, hsplit, hbefore⟩ := List.find?_eq_some_iff_append.1 h
  refine ⟨(hp a).1 ha, before, after, hsplit, fun x hx hPx => ?_⟩
  have hnot := hbefore x hx
  rw [(hp x).2 hPx] at hnot
  cases hnot

/-- A search that fails exactly where a property does finds something at the first entry that has
the property. -/
theorem exists_firstWith_of_findSome? {f : α → Option β} {b : β}
    (hf : ∀ x, f x = none ↔ ¬ P x) (h : list.findSome? f = some b) :
    ∃ a, FirstWith P list a ∧ f a = some b := by
  obtain ⟨before, a, after, hsplit, ha, hbefore⟩ := List.findSome?_eq_some_iff.1 h
  refine ⟨a, ⟨?_, before, after, hsplit, fun x hx => (hf x).1 (hbefore x hx)⟩, ha⟩
  by_contra hnot
  rw [(hf a).2 hnot] at ha
  cases ha

end First

/-! ## Within one type -/

/-- Of some members, the first match with the very descriptor of a target; if no match has it, the
first match. -/
def Preferred (target : AccessTarget) (members : List MemberNode) (m : MemberNode) : Prop :=
  FirstWith (fun m => Matches target m ∧ m.descriptor = target.descriptor) members m ∨
    (∀ other ∈ members, Matches target other → other.descriptor ≠ target.descriptor) ∧
      FirstWith (Matches target) members m

theorem Preferred.mem {target : AccessTarget} {members : List MemberNode} {m : MemberNode}
    (h : Preferred target members m) : m ∈ members := by
  rcases h with h | ⟨-, h⟩
  · exact h.mem
  · exact h.mem

theorem Preferred.matches {target : AccessTarget} {members : List MemberNode} {m : MemberNode}
    (h : Preferred target members m) : Matches target m := by
  rcases h with h | ⟨-, h⟩
  · exact h.1.1
  · exact h.1

theorem exists_preferred_of_preferExact {target : AccessTarget} {members : List MemberNode}
    {p : MemberNode → Bool} (hp : ∀ m, p m = true ↔ Matches target m) {id : MemberId}
    (h : preferExact target (members.filter p) = some id) :
    ∃ m, m.id = id ∧ Preferred target members m := by
  rw [preferExact, List.find?_filter, List.head?_filter] at h
  obtain ⟨m, hm, hid⟩ := Option.map_eq_some_iff.1 h
  have hexact : ∀ other : MemberNode,
      decide (p other = true ∧ (other.descriptor == target.descriptor) = true) = true ↔
        Matches target other ∧ other.descriptor = target.descriptor := by
    intro other
    rw [decide_eq_true_iff, hp, beq_iff_eq]
  refine ⟨m, hid, ?_⟩
  rcases Option.or_eq_some_iff.1 hm with hfind | ⟨hnone, hfind⟩
  · exact Or.inl (firstWith_of_find? hexact hfind)
  · refine Or.inr ⟨fun other hother hmatches hsame => ?_, firstWith_of_find? hp hfind⟩
    exact List.find?_eq_none.1 hnone other hother ((hexact other).2 ⟨hmatches, hsame⟩)

/-- A type declares a field of a name. -/
def DeclaresField (g : Graph) (name : String) (type : TypeId) : Prop :=
  ∃ f ∈ g.membersOf type, f.kind = .field ∧ f.name = name

section Search

variable {g : Graph} {target : AccessTarget} {type : TypeId} {id : MemberId}

theorem exists_preferred_of_findField (hkind : target.kind = .field)
    (h : g.findField target type = some id) :
    ∃ m, m.id = id ∧ Preferred target (g.membersOf type) m := by
  rw [findField, fields, membersOfKind, List.filter_filter] at h
  refine exists_preferred_of_preferExact (fun m => ?_) h
  rw [Bool.and_eq_true, beq_iff_eq, beq_iff_eq, and_comm, Matches]
  simp only [hkind, TargetKind.memberKind, ne_eq, not_true_eq_false, false_implies, and_true]

theorem exists_preferred_of_findCodeUnit (hkind : target.kind ≠ .field)
    (h : g.findCodeUnit target.kind.memberKind target type = some id) :
    ∃ m, m.id = id ∧ Preferred target (g.membersOf type) m := by
  refine exists_preferred_of_preferExact (fun m => ?_) h
  rw [fits_iff, Matches]
  simp only [hkind, ne_eq, not_false_eq_true, true_implies]

/-! ## Along the search -/

theorem declares_field_iff (hkind : target.kind = .field) :
    g.Declares target type ↔ g.DeclaresField target.name type := by
  simp only [Declares, DeclaresField, Matches, hkind, TargetKind.memberKind, ne_eq,
    not_true_eq_false, false_implies, and_true]

/-- The first type of the search space that has a field of the name gives the field. -/
theorem exists_firstWith_of_resolveField (hkind : target.kind = .field)
    (h : g.resolveField target = some id) :
    ∃ type, FirstWith (g.DeclaresField target.name) (g.searchSpace target) type ∧
      g.findField target type = some id := by
  rw [searchSpace, hkind]
  refine exists_firstWith_of_findSome? (fun type => ?_) h
  rw [findField_eq_none_iff_not_declares hkind, declares_field_iff hkind]

theorem exists_firstWith_of_resolveInClasses (hkind : target.kind = .method)
    (h : g.resolveInClasses target.owner target = some id) :
    ∃ type, FirstWith (g.Declares target) (target.owner :: g.superClasses target.owner) type ∧
      g.findCodeUnit .method target type = some id :=
  exists_firstWith_of_findSome? (fun _ => findMethod_eq_none_iff hkind) h

/-- What the interfaces give is a method of one of them. -/
theorem exists_of_resolveInInterfaces (h : g.resolveInInterfaces target.owner target = some id) :
    ∃ type ∈ g.allInterfaces target.owner, g.findCodeUnit .method target type = some id := by
  have hmem : id ∈ g.interfaceCandidates target.owner target := List.mem_of_find?_eq_some h
  rw [interfaceCandidates, interfaceSearchOrder_eq] at hmem
  exact List.mem_filterMap.1 hmem

/-- A type or a type above it takes values of the type. -/
theorem isAssignableTo_iff {a b : TypeId} :
    g.isAssignableTo a b = true ↔ a = b ∨ b ∈ g.allSupertypes a := by
  rw [isAssignableTo, Bool.or_eq_true, beq_iff_eq, List.contains_iff_mem]

theorem mem_allSupertypes_of_mem_superClasses {a b : TypeId} (h : b ∈ g.superClasses a) :
    b ∈ g.allSupertypes a := by
  unfold allSupertypes
  exact List.mem_append_left _ h

/-- Only types that take values of the owner are searched. -/
theorem isAssignableTo_of_mem_searchSpace (h : type ∈ g.searchSpace target) :
    g.isAssignableTo target.owner type = true := by
  rw [isAssignableTo_iff]
  unfold searchSpace at h
  cases hkind : target.kind with
  | constructor =>
    rw [hkind] at h
    exact Or.inl (List.mem_singleton.1 h).symm
  | field =>
    rw [hkind] at h
    rcases List.mem_cons.1 h with rfl | h
    · exact Or.inl rfl
    · by_cases hinterface : g.isInterfaceType target.owner = true
      · rw [if_pos hinterface] at h
        exact Or.inr (mem_allSupertypes_of_mem_allInterfaces h)
      · rw [if_neg hinterface] at h
        exact Or.inr (mem_allSupertypes_of_mem_superClasses h)
  | method =>
    rw [hkind] at h
    rcases List.mem_cons.1 h with rfl | h
    · exact Or.inl rfl
    · rcases List.mem_append.1 h with h | h
      · exact Or.inr (mem_allSupertypes_of_mem_superClasses h)
      · exact Or.inr (mem_allSupertypes_of_mem_allInterfaces h)

end Search

/-! ## What a target denotes -/

/-- A method of a class is declared by the first of the class and its superclasses that has a match,
and by an interface only if none of them has one. An interface comes before the interfaces above it,
and its superclasses come last. -/
structure NearestMethod (g : Graph) (target : AccessTarget) (m : MemberNode) : Prop where
  ofClass : g.isInterfaceType target.owner = false →
    FirstWith (g.Declares target) (target.owner :: g.superClasses target.owner) m.owner ∨
      (∀ type ∈ target.owner :: g.superClasses target.owner, ¬ g.Declares target type) ∧
        m.owner ∈ g.allInterfaces target.owner ∧
        g.resolveInInterfaces target.owner target = some m.id
  ofInterface : g.isInterfaceType target.owner = true →
    g.Declares target target.owner ∧ m.owner = target.owner ∨
      ¬ g.Declares target target.owner ∧ m.owner ∈ g.allInterfaces target.owner ∧
        g.resolveInInterfaces target.owner target = some m.id ∨
      ¬ g.Declares target target.owner ∧ g.resolveInInterfaces target.owner target = none ∧
        FirstWith (g.Declares target) (g.superClasses target.owner) m.owner

/-- What a member must be for a target to denote it. -/
structure Denotes (g : Graph) (target : AccessTarget) (m : MemberNode) : Prop where
  kind : m.kind = target.kind.memberKind
  name : m.name = target.name
  parameters : target.kind ≠ .field → m.parameters = target.parameters
  assignable : g.isAssignableTo target.owner m.owner = true
  ofConstructor : target.kind = .constructor → m.owner = target.owner
  ofField : target.kind = .field →
    FirstWith (g.DeclaresField target.name) (g.searchSpace target) m.owner
  ofMethod : target.kind = .method → g.NearestMethod target m
  preferred : Preferred target (g.membersOf m.owner) m

/-- The search for a method takes the nearest. -/
theorem exists_nearestMethod {g : Graph} {target : AccessTarget} {id : MemberId}
    (hkind : target.kind = .method) (h : g.resolveMethod target = some id) :
    ∃ type ∈ g.searchSpace target, g.findCodeUnit .method target type = some id ∧
      ∀ m : MemberNode, m.id = id → m.owner = type → g.NearestMethod target m := by
  have hspace : g.searchSpace target =
      target.owner :: (g.superClasses target.owner ++ g.allInterfaces target.owner) := by
    rw [searchSpace, hkind]
  rw [hspace]
  simp only [resolveMethod] at h
  cases hinterface : g.isInterfaceType target.owner with
  | false =>
    rw [hinterface, if_neg Bool.false_ne_true] at h
    rcases Option.or_eq_some_iff.1 h with hclasses | ⟨hnone, hinterfaces⟩
    -- a class declares it, whatever the interfaces do
    · obtain ⟨type, hfirst, hfind⟩ := exists_firstWith_of_resolveInClasses hkind hclasses
      refine ⟨type, List.mem_append_left _ hfirst.mem, hfind, fun m _ howner => ⟨fun _ => ?_, ?_⟩⟩
      · exact Or.inl (howner ▸ hfirst)
      · exact fun hother => absurd (hinterface.symm.trans hother) Bool.false_ne_true
    -- no class declares it
    · obtain ⟨type, htype, hfind⟩ := exists_of_resolveInInterfaces hinterfaces
      refine ⟨type, ?_, hfind, fun m hid howner => ⟨fun _ => Or.inr ⟨?_, ?_, ?_⟩, ?_⟩⟩
      · exact List.mem_cons_of_mem _ (List.mem_append_right _ htype)
      · exact (resolveInClasses_eq_none_iff hkind).1 hnone
      · exact howner ▸ htype
      · exact hid ▸ hinterfaces
      · exact fun hother => absurd (hinterface.symm.trans hother) Bool.false_ne_true
  | true =>
    rw [hinterface, if_pos rfl] at h
    have hnotClass : ∀ {P : Prop}, g.isInterfaceType target.owner = false → P := fun hother =>
      absurd (hother.symm.trans hinterface) Bool.false_ne_true
    rcases Option.or_eq_some_iff.1 h with hup | ⟨hnone, hclasses⟩
    · rcases Option.or_eq_some_iff.1 hup with hfind | ⟨hnone, hinterfaces⟩
      -- the interface itself declares it
      · refine ⟨target.owner, List.mem_cons_self, hfind, fun m _ howner => ⟨hnotClass, fun _ => ?_⟩⟩
        exact Or.inl ⟨declares_of_findMethod hkind hfind, howner⟩
      -- an interface above it does
      · obtain ⟨type, htype, hfind⟩ := exists_of_resolveInInterfaces hinterfaces
        refine ⟨type, ?_, hfind, fun m hid howner => ⟨hnotClass, fun _ => ?_⟩⟩
        · exact List.mem_cons_of_mem _ (List.mem_append_right _ htype)
        · refine Or.inr (Or.inl ⟨(findMethod_eq_none_iff hkind).1 hnone, howner ▸ htype, ?_⟩)
          exact hid ▸ hinterfaces
    -- neither gives a method, so the superclasses are searched
    · obtain ⟨howner, hinterfaces⟩ := Option.or_eq_none_iff.1 hnone
      have hnot := (findMethod_eq_none_iff hkind).1 howner
      obtain ⟨type, hfirst, hfind⟩ := exists_firstWith_of_resolveInClasses hkind hclasses
      refine ⟨type, List.mem_append_left _ hfirst.mem, hfind, fun m _ howner => ⟨hnotClass, ?_⟩⟩
      exact fun _ => Or.inr (Or.inr ⟨hnot, hinterfaces, howner ▸ hfirst.of_cons hnot⟩)

section Linked

variable {table : NameTable} {classes : List ClassRecord} {target : AccessTarget} {id : MemberId}

/-- What is found in one of the types searched, by a search that takes the nearest, is what the
target denotes. -/
theorem Denotes.of_preferred (hnodup : table.names.Nodup) {type : TypeId} {m : MemberNode}
    (htype : type ∈ (build table classes).searchSpace target)
    (hm : Preferred target ((build table classes).membersOf type) m)
    (hfield : target.kind = .field →
      FirstWith ((build table classes).DeclaresField target.name)
        ((build table classes).searchSpace target) type)
    (hmethod : target.kind = .method → m.owner = type →
      (build table classes).NearestMethod target m) :
    (build table classes).Denotes target m := by
  have howner : m.owner = type := owner_of_mem hnodup hm.mem
  obtain ⟨hkind, hname, hparameters⟩ := hm.matches
  refine ⟨hkind, hname, hparameters, ?_, fun hconstructor => ?_, fun hkind => ?_,
    fun hkind => hmethod hkind howner, ?_⟩
  · rw [howner]
    exact isAssignableTo_of_mem_searchSpace htype
  · rw [searchSpace, hconstructor] at htype
    rw [howner]
    exact List.mem_singleton.1 htype
  · rw [howner]
    exact hfield hkind
  · rw [howner]
    exact hm

/-- A target denotes the preferred match of one of the types searched, and nothing nearer
matches. -/
theorem exists_denotes_of_resolveTarget (hnodup : table.names.Nodup)
    (h : (build table classes).resolveTarget target = some id) :
    ∃ m, (build table classes).members[id]? = some m ∧ m.id = id ∧
      (build table classes).Denotes target m := by
  have hget : ∀ {type m}, Preferred target ((build table classes).membersOf type) m → m.id = id →
      (build table classes).members[id]? = some m := by
    intro type m hm hid
    rw [← hid]
    exact getElem?_members_of_mem hm.mem
  unfold resolveTarget at h
  cases hkind : target.kind with
  | field =>
    rw [hkind] at h
    obtain ⟨type, hfirst, hfind⟩ := exists_firstWith_of_resolveField hkind h
    obtain ⟨m, hid, hm⟩ := exists_preferred_of_findField hkind hfind
    refine ⟨m, hget hm hid, hid, Denotes.of_preferred hnodup hfirst.mem hm (fun _ => hfirst) ?_⟩
    intro hmethod
    rw [hkind] at hmethod
    cases hmethod
  | constructor =>
    rw [hkind] at h
    have hnotField : target.kind ≠ .field := by
      rw [hkind]
      decide
    have hfind : (build table classes).findCodeUnit target.kind.memberKind target target.owner =
        some id := by
      rw [hkind]
      exact h
    obtain ⟨m, hid, hm⟩ := exists_preferred_of_findCodeUnit hnotField hfind
    refine ⟨m, hget hm hid, hid, Denotes.of_preferred hnodup ?_ hm ?_ ?_⟩
    · rw [searchSpace, hkind]
      exact List.mem_singleton.2 rfl
    · exact fun hfield => absurd hfield hnotField
    · intro hmethod
      rw [hkind] at hmethod
      cases hmethod
  | method =>
    rw [hkind] at h
    have hnotField : target.kind ≠ .field := by
      rw [hkind]
      decide
    obtain ⟨type, htype, hfind, hnearest⟩ := exists_nearestMethod hkind h
    have hfind' : (build table classes).findCodeUnit target.kind.memberKind target type =
        some id := by
      rw [hkind]
      exact hfind
    obtain ⟨m, hid, hm⟩ := exists_preferred_of_findCodeUnit hnotField hfind'
    refine ⟨m, hget hm hid, hid, Denotes.of_preferred hnodup htype hm ?_ fun _ => hnearest m hid⟩
    exact fun hfield => absurd hfield hnotField

end Linked

/-- In a linked graph, the member that a target denotes matches the target, is declared by a type
that takes values of the stated owner, and is the nearest match: no type that is searched before
its own declares a match, and in its own type it is the preferred one. -/
theorem resolve_nearest {g : Graph} {names : List String} {policy : DuplicatePolicy}
    {classes : List ClassRecord} (hlink : link (NameTable.ofList names) policy classes = .ok g)
    {id : TargetId} {target : AccessTarget} (htarget : g.targets[id]? = some target)
    {member : MemberId} (h : g.resolve id = some member) :
    ∃ m, g.members[member]? = some m ∧ m.id = member ∧ g.Denotes target m := by
  obtain ⟨kept, -, rfl⟩ := link_eq_ok_iff.1 hlink
  have hnodup := NameTable.nodup_insertAll _ (mentions kept) (NameTable.nodup_ofList names)
  rw [resolve, htarget, Option.bind_some] at h
  exact exists_denotes_of_resolveTarget hnodup h

/-! ### A superclass and an interface -/

/-- The class `A` and the interface `I` declare a method, `C` extends the one and implements the
other, and `D` calls the method on `C`. -/
def inheritance : List ClassRecord :=
  [plainRecord .plain "A" [] [plainMethod], plainRecord .interface "I" [] [plainMethod],
    { plainRecord .plain "C" ["I"] [] with superClass := some "A" },
    plainRecord .plain "D" [] [callingMethod]]

/-- The names that these classes mention. -/
def inheritanceNames : NameTable := ⟨["java.lang.Object", "A", "I", "C", "D", "void"]⟩

theorem link_inheritance :
    link (NameTable.ofList []) .fail inheritance = .ok (build inheritanceNames inheritance) := by
  have hmentions : mentions inheritance =
      ["java.lang.Object", "A", "I", "C", "D", "A", "java.lang.Object", "void", "I",
        "java.lang.Object", "void", "C", "A", "I", "D", "java.lang.Object", "void", "C",
        "void"] := by
    cbv
  exact link_of_mentions (by decide) hmentions rfl

/-- The call on `C` denotes the method of `A`, although `C` names the interface itself. -/
theorem resolve_nearest_inheritance :
    link (NameTable.ofList []) .fail inheritance = .ok (build inheritanceNames inheritance) ∧
      (build inheritanceNames inheritance).targets[0]? = some ringTarget ∧
      (build inheritanceNames inheritance).resolve 0 = some 0 ∧
      ∃ m, (build inheritanceNames inheritance).members[0]? = some m ∧ m.id = 0 ∧
        (build inheritanceNames inheritance).Denotes ringTarget m := by
  have htarget : (build inheritanceNames inheritance).targets[0]? = some ringTarget := by
    rfl
  have hresolve : (build inheritanceNames inheritance).resolve 0 = some 0 := by
    decide +kernel
  exact ⟨link_inheritance, htarget, hresolve,
    resolve_nearest link_inheritance htarget hresolve⟩

end TypeAtlas.Graph
