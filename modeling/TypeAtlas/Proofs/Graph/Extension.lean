import TypeAtlas.Proofs.Graph.Agreement
import TypeAtlas.Proofs.Graph.Nearest
import TypeAtlas.Proofs.Graph.WellFormed

/-!
# Linking further classes

When further classes are linked after some classes, on a table that only grows (`Extended`), the
members and targets of the first ones keep their numbers and their nodes
(`Extended.isPrefix_members`, `Extended.isPrefix_targets`), and a type that none of the further classes
declares keeps its members and the types above it (`Extended.node`). Calls can make such a type an
interface, but only one that is known by name only, and that is a `Bare` one
(`Linkable.bare_of_stub`). So a target denotes the same member, if the further classes declare
neither its owner nor a type above it (`Extended.resolve_eq`).
-/

set_option autoImplicit false

namespace TypeAtlas

open ClassFile (MemberReference)

/-- A node has the name of another one, its members, and the same types above it. -/
structure TypeNode.Keeps (node other : TypeNode) : Prop where
  name : other.name = node.name
  supertype : other.supertype = node.supertype
  interfaces : other.interfaces = node.interfaces
  members : other.members = node.members

namespace Graph

/-- None of the classes has the name of a type or of one above it. -/
def Untouched (g : Graph) (classes : List ClassRecord) (type : TypeId) : Prop :=
  ∀ a node, Relation.ReflTransGen g.Extends type a → g.types[a]? = some node →
    ∀ c ∈ classes, c.name ≠ node.name

/-! ## Types known by name only -/

section Root

variable {table : NameTable} {classes : List ClassRecord}

/-- A class with the name of the root has no superclass, no interfaces and no fields. -/
def PlainRoot (classes : List ClassRecord) : Prop :=
  ∀ c ∈ classes, c.name = rootName → c.superClass = none ∧ c.interfaces = [] ∧ c.fields = []

/-- A member of a class without fields is not a field. -/
theorem fields_build_eq_nil {i : TypeId}
    (h : ∀ p ∈ placeClasses {} classes, table.names[i]? = some p.record.name →
      p.record.fields = []) : (build table classes).fields i = [] := by
  refine List.filter_eq_nil_iff.2 fun m hm hfield => ?_
  obtain ⟨p, hp, hname, placed, hplaced, rfl⟩ := exists_placed_of_mem hm
  have hmember := member_mem_of_placed hp hplaced
  rw [ClassRecord.declaredMembers, h p hp hname, List.map_nil, List.nil_append] at hmember
  obtain ⟨u, -, hu⟩ := List.mem_map.1 hmember
  have hkind : MemberKind.ofCodeUnit u.kind = .field :=
    (congrArg DeclaredMember.kind hu).trans (eq_of_beq hfield)
  cases hcase : u.kind <;> rw [hcase] at hkind <;> cases hkind

namespace Linkable

variable (L : Linkable table classes) (hroot : PlainRoot classes)
include L hroot

/-- Nothing lies above a plain root. -/
theorem exists_rootNode : ∃ node, (build table classes).types[Link.root table]? = some node ∧
    node.supertype = none ∧ node.interfaces = [] := by
  have hname := NameTable.getElem?_idOf L.rootName_mem
  have hlt : Link.root table < (build table classes).types.size := idOf_lt_size L.rootName_mem
  have hget := Array.getElem?_eq_getElem hlt
  refine ⟨_, hget, ?_⟩
  rcases types_build_cases hget with ⟨p, hp, hp', hnode⟩ | ⟨name, -, -, hnode⟩
  · have hrootName : p.record.name = rootName := Option.some.inj (hp'.symm.trans hname)
    obtain ⟨hsuper, hinterfaces, -⟩ := hroot p.record (record_mem_of_placed hp) hrootName
    rw [hnode]
    simp only [Link.importedNode, Link.root, hsuper, hinterfaces, if_true, List.map_nil, and_self]
  · rw [hnode]
    simp only [Link.stubNode, Link.root, true_or, if_true, and_self]

/-- A plain root has no fields. -/
theorem fields_root : (build table classes).fields (Link.root table) = [] := by
  have hname := NameTable.getElem?_idOf L.rootName_mem
  refine fields_build_eq_nil fun p hp hp' => ?_
  have hrootName : p.record.name = rootName := Option.some.inj (hp'.symm.trans hname)
  exact (hroot p.record (record_mem_of_placed hp) hrootName).2.2

/-- Above a type that is known by name only lies at most a plain root. -/
theorem bare_of_stub {i : TypeId} {node : TypeNode}
    (h : (build table classes).types[i]? = some node) (hstub : node.fullyImported = false) :
    (build table classes).Bare i := by
  obtain ⟨rootNode, hrootNode, hsuper, hinterfaces⟩ := L.exists_rootNode hroot
  rcases types_build_cases h with ⟨p, -, -, rfl⟩ | ⟨name, -, -, rfl⟩
  · cases hstub
  have hnext : ∀ b, (build table classes).supertype? i = some b → b = Link.root table := by
    intro b hb
    rw [supertype?, h, Option.bind_some] at hb
    simp only [Link.stubNode] at hb
    split at hb
    · cases hb
    · exact (Option.some.inj hb).symm
  -- the chain of superclasses ends at the root
  have habove : ∀ b, Relation.TransGen
      (fun x y => (build table classes).supertype? x = some y) i b → b = Link.root table := by
    intro b hb
    induction hb with
    | single hstep => exact hnext _ hstep
    | tail _ hstep ih =>
      rw [ih, supertype?, hrootNode, Option.bind_some, hsuper] at hstep
      cases hstep
  constructor
  case membersOf =>
    rw [membersOf, h]
    rfl
  case interfaces =>
    rw [interfaces, h]
    rfl
  case above =>
    intro b hb
    rw [habove b (Walk.transGen_of_mem_chain hb), L.fields_root hroot, interfaces, hrootNode]
    exact ⟨hinterfaces, rfl⟩

end Linkable

end Root

/-! ## Extended graphs -/

/-- Further classes are linked after some classes, on a table that gives the names of these the
same numbers. -/
structure Extended (table table' : NameTable) (classes more : List ClassRecord) : Prop where
  before : Linkable table classes
  after : Linkable table' (classes ++ more)
  names : table.names <+: table'.names

namespace Extended

variable {table table' : NameTable} {classes more : List ClassRecord}
  (X : Extended table table' classes more)
include X

/-! ## Numbers of names -/

theorem idOf_eq {name : String} (h : name ∈ table.names) : table'.idOf name = table.idOf name :=
  NameTable.idOf_of_isPrefix X.names h

theorem map_idOf_eq {list : List String} (h : ∀ name ∈ list, name ∈ table.names) :
    list.map table'.idOf = list.map table.idOf :=
  List.map_congr_left fun name hname => X.idOf_eq (h name hname)

theorem root_eq : Link.root table' = Link.root table := X.idOf_eq X.before.rootName_mem

theorem getElem?_names {i : TypeId} {name : String} (h : table.names[i]? = some name) :
    table'.names[i]? = some name := by
  obtain ⟨rest, hrest⟩ := X.names
  rw [← hrest, List.getElem?_append_left (List.getElem?_eq_some_iff.1 h).1, h]

omit X in
/-- A table into which names are entered keeps the numbers that it gave. -/
theorem of_insertAll {names : List String} (L : Linkable table classes)
    (hdistinct : ((classes ++ more).map ClassRecord.name).Nodup)
    (hmentioned : ∀ name ∈ mentions (classes ++ more), name ∈ (table.insertAll names).names) :
    Extended table (table.insertAll names) classes more where
  before := L
  after := ⟨NameTable.nodup_insertAll _ _ L.nodup, hdistinct, hmentioned⟩
  names := NameTable.isPrefix_insertAll table names

/-! ## Members and targets -/

theorem memberNode_eq {p : PlacedClass} (hp : p ∈ placeClasses {} classes) {m : PlacedMember}
    (hm : m ∈ p.members) :
    Link.memberNode table' p.record m = Link.memberNode table p.record m := by
  have hmem : ∀ name ∈ m.member.mentions, name ∈ table.names := by
    intro name hname
    apply X.before.mem_of_class (record_mem_of_placed hp)
    exact ClassRecord.member_mem_mentions (member_mem_of_placed hp hm) hname
  have howner := X.idOf_eq (X.before.name_mem hp)
  have hparameters := X.map_idOf_eq fun name hname =>
    hmem name (DeclaredMember.parameterType_mem_mentions hname)
  have hvalue := X.idOf_eq (hmem _ DeclaredMember.valueType_mem_mentions)
  have hthrows := X.map_idOf_eq fun name hname =>
    hmem name (DeclaredMember.throws_mem_mentions hname)
  simp only [Link.memberNode, howner, hparameters, hvalue, hthrows]

/-- The members of the first classes keep their numbers. -/
theorem isPrefix_members :
    Link.allMembers table classes <+: Link.allMembers table' (classes ++ more) := by
  have hsame : Link.allMembers table' classes = Link.allMembers table classes := by
    apply List.flatMap_congr
    intro p hp
    exact List.map_congr_left fun m hm => X.memberNode_eq hp hm
  rw [← hsame, Link.allMembers, Link.allMembers, placeClasses_append, List.flatMap_append]
  exact List.prefix_append _ _

theorem getElem?_members {id : MemberId} {m : MemberNode}
    (h : (build table classes).members[id]? = some m) :
    (build table' (classes ++ more)).members[id]? = some m := by
  rw [members_build, List.getElem?_toArray] at h ⊢
  obtain ⟨rest, hrest⟩ := X.isPrefix_members
  rw [← hrest, List.getElem?_append_left (List.getElem?_eq_some_iff.1 h).1, h]

omit X in
theorem isPrefix_targetReferences (classes more : List ClassRecord) :
    targetReferences classes <+: targetReferences (classes ++ more) := by
  rw [targetReferences, targetReferences, references, references, List.flatMap_append]
  exact isPrefix_distinctOn targetKey _ _

theorem targetNode_eq {r : MemberReference} (hr : r ∈ targetReferences classes) :
    Link.targetNode table' (Link.targetOf (targetKeys (classes ++ more)) r) r =
      Link.targetNode table (Link.targetOf (targetKeys classes) r) r := by
  have hmem : ∀ name ∈ referenceMentions r, name ∈ table.names := fun name hname =>
    X.before.mem_of_reference (mem_of_mem_distinctOn hr) hname
  have htarget : Link.targetOf (targetKeys (classes ++ more)) r =
      Link.targetOf (targetKeys classes) r := by
    obtain ⟨rest, hrest⟩ := (isPrefix_targetReferences classes more).map targetKey
    have hkey : targetKey r ∈ targetKeys classes := List.mem_map_of_mem hr
    rw [Link.targetOf, targetKeys, ← hrest]
    exact List.idxOf_append_of_mem hkey
  have howner := X.idOf_eq (hmem r.owner List.mem_cons_self)
  have hparameters := X.map_idOf_eq fun name hname =>
    hmem name (List.mem_cons_of_mem _ (List.mem_append_left _ hname))
  have hvalue := X.idOf_eq (hmem r.valueType
    (List.mem_cons_of_mem _ (List.mem_append_right _ (List.mem_singleton_self _))))
  simp only [Link.targetNode, htarget, howner, hparameters, hvalue]

/-- The targets of the first classes keep their numbers. -/
theorem isPrefix_targets :
    Link.targetNodes table classes <+: Link.targetNodes table' (classes ++ more) := by
  rw [Reordered.targetNodes_eq_map, Reordered.targetNodes_eq_map]
  have hsame : ((targetReferences classes).map fun r =>
      Link.targetNode table (Link.targetOf (targetKeys classes) r) r) =
      (targetReferences classes).map fun r =>
        Link.targetNode table' (Link.targetOf (targetKeys (classes ++ more)) r) r :=
    List.map_congr_left fun r hr => (X.targetNode_eq hr).symm
  rw [hsame]
  exact (isPrefix_targetReferences classes more).map _

theorem getElem?_targets {id : TargetId} {target : AccessTarget}
    (h : (build table classes).targets[id]? = some target) :
    (build table' (classes ++ more)).targets[id]? = some target := by
  rw [targets_build, List.getElem?_toArray] at h ⊢
  obtain ⟨rest, hrest⟩ := X.isPrefix_targets
  rw [← hrest, List.getElem?_append_left (List.getElem?_eq_some_iff.1 h).1, h]

/-- On a larger table the same classes have the same targets. -/
theorem targets_eq (hmore : more = []) :
    (build table' (classes ++ more)).targets = (build table classes).targets := by
  have hlength : (Link.targetNodes table classes).length =
      (Link.targetNodes table' (classes ++ more)).length := by
    rw [hmore, List.append_nil, Link.targetNodes_eq, Link.targetNodes_eq, List.length_map,
      List.length_map]
  rw [targets_build, targets_build, X.isPrefix_targets.eq_of_length hlength]

/-! ## Types -/

theorem keeps_importedNode {p : PlacedClass} (hp : p ∈ placeClasses {} classes) (i : TypeId) :
    (Link.importedNode table i p).Keeps (Link.importedNode table' i p) := by
  have hmem : ∀ {name}, name ∈ p.record.mentions → name ∈ table.names := fun hname =>
    X.before.mem_of_class (record_mem_of_placed hp) hname
  constructor
  case name => rfl
  case supertype =>
    simp only [Link.importedNode, X.root_eq]
    cases hsuper : p.record.superClass with
    | none => rfl
    | some name =>
      exact congrArg some (X.idOf_eq (hmem (ClassRecord.superClass_mem_mentions hsuper)))
  case interfaces =>
    exact X.map_idOf_eq fun name hname => hmem (ClassRecord.interface_mem_mentions hname)
  case members => rfl

theorem keeps_stubNode (uses uses' : List String) (i : TypeId) (name : String) :
    (Link.stubNode table uses i name).Keeps (Link.stubNode table' uses' i name) := by
  -- whether a name is that of a primitive type does not depend on how it is used
  have hprimitive : Link.stubKind uses' name = .primitive ↔
      Link.stubKind uses name = .primitive := by
    unfold Link.stubKind
    split
    · exact Iff.rfl
    · split
      · exact Iff.rfl
      · constructor <;> intro h <;> split at h <;> cases h
  constructor
  case name => rfl
  case supertype => simp only [Link.stubNode, X.root_eq, hprimitive]
  case interfaces => rfl
  case members => rfl

/-- A type that none of the further classes declares keeps its members and the types above it. Its
kind can change only if it is known by name only. -/
theorem node {i : TypeId} {node : TypeNode} (h : (build table classes).types[i]? = some node)
    (hnew : ∀ c ∈ more, c.name ≠ node.name) :
    ∃ other, (build table' (classes ++ more)).types[i]? = some other ∧ node.Keeps other ∧
      (node.fullyImported = true ∨ more = [] → other.kind = node.kind) := by
  rw [getElem?_types_build] at h
  obtain ⟨name, hname, rfl⟩ := Option.map_eq_some_iff.1 h
  have hnodeName : (Link.openNode table classes i name).name = name := Link.name_typeNode _ _ _ _ _
  have hrest : (placeClasses (classes.foldl Numbering.pastClass {}) more).find?
      (fun p => p.record.name == name) = none := by
    refine List.find?_eq_none.2 fun p hp hsame => ?_
    exact hnew p.record (record_mem_of_placed hp) ((eq_of_beq hsame).trans hnodeName.symm)
  have hkeeps : (Link.openNode table classes i name).Keeps
      (Link.openNode table' (classes ++ more) i name) ∧
      ((Link.openNode table classes i name).fullyImported = true ∨ more = [] →
        (Link.openNode table' (classes ++ more) i name).kind =
          (Link.openNode table classes i name).kind) := by
    unfold Link.openNode Link.typeNode
    rw [placeClasses_append, List.find?_append, hrest, Option.or_none]
    cases hfind : (placeClasses {} classes).find? fun p => p.record.name == name with
    | some p => exact ⟨X.keeps_importedNode (List.mem_of_find?_eq_some hfind) i, fun _ => rfl⟩
    | none =>
      refine ⟨X.keeps_stubNode _ _ i name, ?_⟩
      rintro (himported | rfl)
      · cases himported
      · rw [List.append_nil]
        rfl
  obtain ⟨⟨hsame, hsuper, hinterfaces, hmembers⟩, hkind⟩ := hkeeps
  rw [getElem?_types_build, X.getElem?_names hname, Option.map_some]
  exact ⟨_, rfl, ⟨hsame, hsuper, hinterfaces, hmembers⟩, hkind⟩

/-! ## Agreement above a type -/

/-- A type that keeps its members has the same member nodes. -/
theorem membersOf_eq {i : TypeId} {node other : TypeNode}
    (h : (build table classes).types[i]? = some node)
    (hother : (build table' (classes ++ more)).types[i]? = some other) (hkeeps : node.Keeps other) :
    (build table' (classes ++ more)).membersOf i = (build table classes).membersOf i := by
  rw [membersOf, membersOf, h, hother]
  show other.members.filterMap _ = node.members.filterMap _
  rw [hkeeps.members]
  apply List.filterMap_congr
  intro id hid
  obtain ⟨m, hm, -⟩ := ((X.before.lists_members h).2 id).1 hid
  rw [hm, X.getElem?_members hm]

/-- Where the further classes declare nothing above an owner, both graphs agree above it. -/
theorem agreeOn {owner : TypeId} (howner : owner < (build table classes).typeCount)
    (hnew : (build table classes).Untouched more owner) :
    AgreeOn (Relation.ReflTransGen (build table classes).Extends owner) (build table classes)
      (build table' (classes ++ more)) := by
  have hnode : ∀ a, Relation.ReflTransGen (build table classes).Extends owner a →
      ∃ node other, (build table classes).types[a]? = some node ∧
        (build table' (classes ++ more)).types[a]? = some other ∧ node.Keeps other := by
    intro a ha
    have hlt := X.before.wellFormed.closed.lt_of_reflTransGen howner ha
    have hget := Array.getElem?_eq_getElem hlt
    obtain ⟨other, hother, hkeeps, -⟩ := X.node hget (hnew a _ ha hget)
    exact ⟨_, other, hget, hother, hkeeps⟩
  constructor
  case bounds =>
    intro a ha
    obtain ⟨node, other, hget, hother, -⟩ := hnode a ha
    exact ⟨(Array.getElem?_eq_some_iff.1 hget).1, (Array.getElem?_eq_some_iff.1 hother).1⟩
  case closed => exact fun a b ha hab => ha.tail hab
  case supertype? =>
    intro a ha
    obtain ⟨node, other, hget, hother, hkeeps⟩ := hnode a ha
    rw [supertype?, supertype?, hget, hother, Option.bind_some, Option.bind_some, hkeeps.supertype]
  case interfaces =>
    intro a ha
    obtain ⟨node, other, hget, hother, hkeeps⟩ := hnode a ha
    rw [interfaces, interfaces, hget, hother]
    exact hkeeps.interfaces
  case membersOf =>
    intro a ha
    obtain ⟨node, other, hget, hother, hkeeps⟩ := hnode a ha
    exact X.membersOf_eq hget hother hkeeps
  case declaring =>
    intro a ha m hm
    obtain ⟨node, other, hget, hother, hkeeps⟩ := hnode a ha
    refine ⟨declaringType?_of_mem X.before.nodup hm, declaringType?_of_mem X.after.nodup ?_⟩
    rw [X.membersOf_eq hget hother hkeeps]
    exact hm

/-- A target denotes the same member when further classes are linked, if these declare neither its
owner nor a type above it. -/
theorem resolve_eq (hroot : PlainRoot classes ∨ more = []) {id : TargetId} {target : AccessTarget}
    (h : (build table classes).targets[id]? = some target)
    (hnew : (build table classes).Untouched more target.owner) :
    (build table' (classes ++ more)).resolve id = (build table classes).resolve id := by
  have howner := X.before.wellFormed.closed.owner_lt h
  have A := X.agreeOn howner hnew
  rw [resolve, resolve, h, X.getElem?_targets h, Option.bind_some, Option.bind_some]
  obtain ⟨node, hnode⟩ : ∃ node, (build table classes).types[target.owner]? = some node :=
    ⟨_, Array.getElem?_eq_getElem howner⟩
  obtain ⟨other, hother, -, hkind⟩ := X.node hnode (hnew _ _ .refl hnode)
  by_cases hkept : node.fullyImported = true ∨ more = []
  · apply A.resolveTarget_eq .refl
    simp only [isInterfaceType, hnode, hother, TypeNode.isInterface, hkind hkept]
  -- the references of the further classes may make such an owner an interface
  · obtain ⟨hstub, hmore⟩ := not_or.1 hkept
    have hbare := X.before.bare_of_stub (hroot.resolve_right hmore) hnode
      (eq_false_of_ne_true hstub)
    exact A.resolveTarget_eq_of_bare .refl hbare

end Extended

end Graph

end TypeAtlas
