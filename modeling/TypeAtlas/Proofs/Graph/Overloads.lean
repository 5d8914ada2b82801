import TypeAtlas.Proofs.Descriptor.PlainTypes
import TypeAtlas.Proofs.Graph.Nearest
import TypeAtlas.Proofs.Graph.ReservedNames

/-!
# Telling overloads apart

A target is compared with the members of its name by the numbers of its parameter types. Where no
class in a descriptor has a name that stands for another type in source form, this comes to the
same as comparing what is written between the parentheses of the descriptors: numbers and types
determine each other (`Links.eq_iff`), so a look into one type finds the same member either way
(`findCodeUnit_eq_findByText`), and so does the whole search (`matchesByText_of_link`).
-/

set_option autoImplicit false

namespace TypeAtlas

open ClassFile (map_eq_ok_iff)

/-- A descriptor in a graph, of a field or of a code unit, with the numbers of its types. -/
structure Signature where
  isField : Bool
  descriptor : String
  ids : List TypeId

def MemberNode.writtenSignature (m : MemberNode) : Signature :=
  ⟨m.kind == .field, m.descriptor, m.parameters ++ [m.returnType]⟩

def AccessTarget.writtenSignature (target : AccessTarget) : Signature :=
  ⟨target.kind == .field, target.descriptor, target.parameters ++ [target.returnType]⟩

namespace Graph

/-! ## Searching by text -/

section Search

variable (g : Graph)

/-- The descriptors of the members and the targets. -/
def signatures : List Signature :=
  g.members.toList.map MemberNode.writtenSignature ++
    g.targets.toList.map AccessTarget.writtenSignature

/-- The classes in the descriptors have plain names. -/
def PlainDescriptors : Prop :=
  ∀ s ∈ g.signatures, ∀ types ∈ (descriptorTypes s.isField s.descriptor).toOption,
    ∀ type ∈ types, type.Plain

instance : Decidable g.PlainDescriptors :=
  inferInstanceAs (Decidable (∀ s ∈ g.signatures,
    ∀ types ∈ (descriptorTypes s.isField s.descriptor).toOption, ∀ type ∈ types, type.Plain))

/-- Whether a member is of a kind, and has the name and the written parameters of a target. -/
def fitsText (kind : MemberKind) (target : AccessTarget) (m : MemberNode) : Bool :=
  m.kind == kind && m.name == target.name &&
    parameterPart m.descriptor == parameterPart target.descriptor

/-- The code unit of a type that the text of a target's descriptor denotes. -/
def findByText (kind : MemberKind) (target : AccessTarget) (type : TypeId) : Option MemberId :=
  preferExact target ((g.membersOf type).filter (fitsText kind target))

/-- The member that a target denotes, with any way to look for a code unit in one type. -/
def resolveBy (look : MemberKind → TypeId → Option MemberId) (target : AccessTarget) :
    Option MemberId :=
  let owner := target.owner
  let inClasses := (owner :: g.superClasses owner).findSome? (look .method)
  let inInterfaces := g.mostSpecific ((g.interfaceSearchOrder owner).filterMap (look .method))
  match target.kind with
  | .field => g.resolveField target
  | .constructor => look .constructor owner
  | .method =>
    if g.isInterfaceType owner then ((look .method owner).or inInterfaces).or inClasses
    else inClasses.or inInterfaces

/-- Looking for code units by number is how targets are resolved. -/
theorem resolveBy_findCodeUnit (target : AccessTarget) :
    g.resolveBy (fun kind => g.findCodeUnit kind target) target = g.resolveTarget target := by
  unfold resolveBy resolveTarget
  cases target.kind <;> rfl

/-- Only looks for constructors and methods matter. -/
theorem resolveBy_congr {look other : MemberKind → TypeId → Option MemberId}
    (hconstructor : look .constructor = other .constructor) (hmethod : look .method = other .method)
    (target : AccessTarget) : g.resolveBy look target = g.resolveBy other target := by
  unfold resolveBy
  rw [hconstructor, hmethod]

theorem PlainDescriptors.plain {g : Graph} (h : g.PlainDescriptors) {s : Signature}
    (hs : s ∈ g.signatures) {types : List ReturnType}
    (htypes : descriptorTypes s.isField s.descriptor = .ok types) : ∀ type ∈ types, type.Plain :=
  h s hs types (by rw [htypes]; rfl)

/-- What the numbers of types decide in a graph is what the texts of descriptors decide. -/
structure MatchesByText : Prop where
  /-- A target and a code unit agree in their parameters if the texts of these are the same. -/
  parameters : ∀ target ∈ g.targets, target.kind ≠ .field → ∀ m ∈ g.members, m.kind ≠ .field →
    ∃ text other, parameterPart target.descriptor = some text ∧
      parameterPart m.descriptor = some other ∧
      (target.parameters = m.parameters ↔ text = other)
  /-- The search by numbers is the search by texts. -/
  resolved : ∀ id target, g.targets[id]? = some target →
    g.resolve id = g.resolveBy (fun kind => g.findByText kind target) target
  /-- The code unit that is found has the text of the target. -/
  found : ∀ id target mid, g.targets[id]? = some target → target.kind ≠ .field →
    g.resolve id = some mid →
    ∃ m, g.members[mid]? = some m ∧ fitsText target.kind.memberKind target m = true
  /-- No code unit with the text of the target is passed over in its type. -/
  missed : ∀ target ∈ g.targets, target.kind ≠ .field → ∀ type,
    g.findCodeUnit target.kind.memberKind target type = none →
    ∀ m ∈ g.membersOf type, fitsText target.kind.memberKind target m = false
  /-- Every type of a descriptor has a number. -/
  typed : ∀ s ∈ g.signatures, ∃ types, descriptorTypes s.isField s.descriptor = .ok types ∧
    s.ids.length = types.length
  /-- Types of descriptors have the same number if they are the same type. -/
  types : ∀ s ∈ g.signatures, ∀ s' ∈ g.signatures, ∀ types types',
    descriptorTypes s.isField s.descriptor = .ok types →
    descriptorTypes s'.isField s'.descriptor = .ok types' →
    ∀ i j type type', (i, type) ∈ s.ids.zip types → (j, type') ∈ s'.ids.zip types' →
      (i = j ↔ type = type')

end Search

/-! ## Numbers and types -/

/-- A number is that of the name of a type. -/
def Links (g : Graph) (id : TypeId) (type : ReturnType) : Prop :=
  g.names.find? type.typeName = some id

section Links

variable {g : Graph} {i j : TypeId} {type other : ReturnType}

theorem Links.eq_iff (hi : g.Links i type) (hj : g.Links j other) (hplain : type.Plain)
    (hother : other.Plain) : i = j ↔ type = other := by
  obtain ⟨hmem, hid⟩ := NameTable.find?_eq_some_iff.1 hi
  obtain ⟨hmem', hid'⟩ := NameTable.find?_eq_some_iff.1 hj
  constructor
  · rintro rfl
    apply ReturnType.eq_of_typeName_eq hplain hother
    exact (NameTable.idOf_inj hmem).1 (hid.trans hid'.symm)
  · rintro rfl
    exact hid.symm.trans hid'

/-- Lists of numbers and lists of types determine each other. -/
theorem Links.list_eq_iff {ids ids' : List TypeId} {types types' : List ReturnType}
    (h : List.Forall₂ g.Links ids types) (h' : List.Forall₂ g.Links ids' types')
    (hplain : ∀ type ∈ types, type.Plain) (hplain' : ∀ type ∈ types', type.Plain) :
    ids = ids' ↔ types = types' := by
  induction h generalizing ids' types' with
  | nil =>
    cases h' with
    | nil => exact iff_of_true rfl rfl
    | cons _ _ => exact iff_of_false (List.cons_ne_nil _ _).symm (List.cons_ne_nil _ _).symm
  | cons hfirst _ ih =>
    cases h' with
    | nil => exact iff_of_false (List.cons_ne_nil _ _) (List.cons_ne_nil _ _)
    | cons hfirst' hrest' =>
      rw [List.forall_mem_cons] at hplain hplain'
      rw [List.cons.injEq, List.cons.injEq, hfirst.eq_iff hfirst' hplain.1 hplain'.1,
        ih hrest' hplain.2 hplain'.2]

end Links

/-! ## Descriptors of a linked graph -/

/-- Every descriptor of the graph can be read, and has the numbers of its types. -/
def Linked (g : Graph) : Prop :=
  ∀ s ∈ g.signatures, ∃ types, descriptorTypes s.isField s.descriptor = .ok types ∧
    List.Forall₂ g.Links s.ids types

theorem ReservesNames.linked {g : Graph} {classNames : List String}
    (h : g.ReservesNames classNames) : g.Linked := by
  intro s hs
  rcases List.mem_append.1 hs with hs | hs
  · obtain ⟨m, hm, rfl⟩ := List.mem_map.1 hs
    obtain ⟨types, htypes, hspelled⟩ := h.members m (Array.mem_toList_iff.1 hm)
    exact ⟨types, htypes, hspelled.imp fun _ _ h => h.1⟩
  · obtain ⟨target, htarget, rfl⟩ := List.mem_map.1 hs
    obtain ⟨types, htypes, hspelled⟩ := h.targets target (Array.mem_toList_iff.1 htarget)
    exact ⟨types, htypes, hspelled.imp fun _ _ h => h.1⟩

theorem mem_members_of_mem_membersOf {g : Graph} {type : TypeId} {m : MemberNode}
    (h : m ∈ g.membersOf type) : m ∈ g.members := by
  unfold membersOf at h
  split at h
  · obtain ⟨id, -, hid⟩ := List.mem_filterMap.1 h
    exact Array.mem_of_getElem? hid
  · exact absurd h List.not_mem_nil

section Linked

variable {g : Graph} (hlinked : g.Linked) (hplain : g.PlainDescriptors)

include hlinked hplain

/-- Types of descriptors have the same number if they are the same type. -/
theorem id_eq_iff {s s' : Signature} (hs : s ∈ g.signatures) (hs' : s' ∈ g.signatures)
    {types types' : List ReturnType} (htypes : descriptorTypes s.isField s.descriptor = .ok types)
    (htypes' : descriptorTypes s'.isField s'.descriptor = .ok types') {i j : TypeId}
    {type type' : ReturnType} (hi : (i, type) ∈ s.ids.zip types)
    (hj : (j, type') ∈ s'.ids.zip types') : i = j ↔ type = type' := by
  obtain ⟨_, hread, hlinks⟩ := hlinked s hs
  obtain ⟨_, hread', hlinks'⟩ := hlinked s' hs'
  cases htypes.symm.trans hread
  cases htypes'.symm.trans hread'
  exact (List.forall₂_zip hlinks hi).eq_iff (List.forall₂_zip hlinks' hj)
    (hplain.plain hs htypes type (List.of_mem_zip hi).2)
    (hplain.plain hs' htypes' type' (List.of_mem_zip hj).2)

/-- The parameters of a code unit or its target are linked to the types that its text spells. -/
theorem exists_params {descriptor : String} {parameters : List TypeId} {returnType : TypeId}
    (h : ⟨false, descriptor, parameters ++ [returnType]⟩ ∈ g.signatures) :
    ∃ type, MethodType.parse descriptor = .ok type ∧
      List.Forall₂ g.Links parameters (type.params.map .value) ∧
      ∀ param ∈ type.params.map ReturnType.value, param.Plain := by
  obtain ⟨types, htypes, hlinks⟩ := hlinked _ h
  have hall := hplain.plain h htypes
  have hparsed : (MethodType.parse descriptor).map
      (fun type => type.params.map .value ++ [type.result]) = .ok types := htypes
  obtain ⟨type, hparse, rfl⟩ := map_eq_ok_iff.1 hparsed
  have hlength := hlinks.length_eq
  rw [List.length_append, List.length_append, List.length_singleton, List.length_singleton,
    Nat.add_right_cancel_iff] at hlength
  refine ⟨type, hparse, ?_, fun param hparam => hall param (List.mem_append_left _ hparam)⟩
  have htake := List.forall₂_take_append _ _ _ hlinks
  rwa [← hlength, List.take_left] at htake

variable {target : AccessTarget} (htarget : target ∈ g.targets) (hnotField : target.kind ≠ .field)

include htarget hnotField

theorem parameters_eq_iff {m : MemberNode} (hm : m ∈ g.members) (hunit : m.kind ≠ .field) :
    ∃ text other, parameterPart target.descriptor = some text ∧
      parameterPart m.descriptor = some other ∧
      (target.parameters = m.parameters ↔ text = other) := by
  have hsignature : ⟨false, target.descriptor, target.parameters ++ [target.returnType]⟩ ∈
      g.signatures := by
    rw [← beq_eq_false_iff_ne.2 hnotField]
    exact List.mem_append_right _ (List.mem_map_of_mem (Array.mem_toList_iff.2 htarget))
  have hsignature' : ⟨false, m.descriptor, m.parameters ++ [m.returnType]⟩ ∈ g.signatures := by
    rw [← beq_eq_false_iff_ne.2 hunit]
    exact List.mem_append_left _ (List.mem_map_of_mem (Array.mem_toList_iff.2 hm))
  obtain ⟨type, hparse, hlinks, hall⟩ := exists_params hlinked hplain hsignature
  obtain ⟨other, hparse', hlinks', hall'⟩ := exists_params hlinked hplain hsignature'
  refine ⟨_, _, parameterPart_of_parse hparse, parameterPart_of_parse hparse', ?_⟩
  have hvalue : Function.Injective ReturnType.value := fun _ _ h => ReturnType.value.inj h
  have htext := parameterPart_eq_iff hparse hparse'
  rw [parameterPart_of_parse hparse, parameterPart_of_parse hparse', Option.some_inj] at htext
  rw [htext, Links.list_eq_iff hlinks hlinks' hall hall', (List.map_injective_iff.2 hvalue).eq_iff]

/-- A code unit fits a target by numbers if it does by text. -/
theorem fits_eq_fitsText {kind : MemberKind} (hkind : kind ≠ .field) {m : MemberNode}
    (hm : m ∈ g.members) : fits kind target m = fitsText kind target m := by
  unfold fits fitsText
  by_cases hsame : m.kind = kind
  · obtain ⟨text, other, htext, hother, hiff⟩ :=
      parameters_eq_iff hlinked hplain htarget hnotField hm (hsame ▸ hkind)
    have hparameters : (m.parameters == target.parameters) =
        (parameterPart m.descriptor == parameterPart target.descriptor) := by
      rw [htext, hother, Bool.eq_iff_iff, beq_iff_eq, beq_iff_eq, Option.some_inj, eq_comm, hiff,
        eq_comm]
    rw [hparameters]
  · rw [beq_eq_false_iff_ne.2 hsame, Bool.false_and, Bool.false_and, Bool.false_and]

theorem findCodeUnit_eq_findByText {kind : MemberKind} (hkind : kind ≠ .field) :
    g.findCodeUnit kind target = g.findByText kind target := by
  funext type
  rw [findCodeUnit, findByText, List.filter_congr fun m hm =>
    fits_eq_fitsText hlinked hplain htarget hnotField hkind (mem_members_of_mem_membersOf hm)]

/-- A look into a type passes over what has another text only. -/
theorem fitsText_eq_false_of_findCodeUnit {kind : MemberKind} (hkind : kind ≠ .field)
    {type : TypeId} (h : g.findCodeUnit kind target type = none) :
    ∀ m ∈ g.membersOf type, fitsText kind target m = false := by
  rw [findCodeUnit_eq_findByText hlinked hplain htarget hnotField hkind, findByText,
    preferExact_eq_none_iff, List.filter_eq_nil_iff] at h
  exact fun m hm => Bool.eq_false_iff.2 (h m hm)

theorem resolveTarget_eq_resolveBy :
    g.resolveTarget target = g.resolveBy (fun kind => g.findByText kind target) target := by
  rw [← resolveBy_findCodeUnit]
  exact g.resolveBy_congr
    (findCodeUnit_eq_findByText hlinked hplain htarget hnotField (by decide))
    (findCodeUnit_eq_findByText hlinked hplain htarget hnotField (by decide)) target

end Linked

/-- Fields are looked for by name in any case. -/
theorem resolveBy_field {g : Graph} {target : AccessTarget} (hfield : target.kind = .field)
    (look : MemberKind → TypeId → Option MemberId) :
    g.resolveBy look target = g.resolveTarget target := by
  unfold resolveBy resolveTarget
  rw [hfield]

theorem memberKind_ne_field {kind : TargetKind} (h : kind ≠ .field) :
    kind.memberKind ≠ .field := by
  cases kind with
  | field => exact absurd rfl h
  | _ => decide

/-- In a graph of parsed classes with plain names in descriptors, comparing the numbers of types is
comparing texts. -/
theorem matchesByText_of_link {g : Graph} {names : List String} {policy : DuplicatePolicy}
    {classes : List ClassRecord} (hlink : link (NameTable.ofList names) policy classes = .ok g)
    (hparsed : ∀ c ∈ classes, ∃ bytes, ClassRecord.parse bytes = .ok c)
    (hplain : g.PlainDescriptors) : g.MatchesByText := by
  obtain ⟨table, kept, hkept, rfl, L⟩ := linkable_of_link hlink
  have hparsed' : ∀ c ∈ kept, ∃ bytes, ClassRecord.parse bytes = .ok c :=
    fun c hc => hparsed c (mem_of_mem_dedupe hkept c hc)
  have hlinked : (build table kept).Linked :=
    (L.reservesNames (fun _ => Iff.rfl) (fieldTypes_of_parse hparsed')
      (methodTypes_of_parse hparsed') (typed_references_of_parse hparsed')).linked
  refine
    { parameters := fun target htarget hfield m hm hunit =>
        parameters_eq_iff hlinked hplain htarget hfield hm hunit
      resolved := fun id target hid => ?_
      found := fun id target mid hid hfield hresolve => ?_
      missed := fun target htarget hfield type hnone =>
        fitsText_eq_false_of_findCodeUnit hlinked hplain htarget hfield
          (memberKind_ne_field hfield) hnone
      typed := fun s hs => ?_
      types := fun s hs s' hs' _ _ htypes htypes' _ _ _ _ hi hj =>
        id_eq_iff hlinked hplain hs hs' htypes htypes' hi hj }
  · rw [resolve, hid, Option.bind_some]
    by_cases hfield : target.kind = .field
    · exact (resolveBy_field hfield _).symm
    · exact resolveTarget_eq_resolveBy hlinked hplain (Array.mem_of_getElem? hid) hfield
  · rw [resolve, hid, Option.bind_some] at hresolve
    obtain ⟨m, hm, -, hdenotes⟩ := exists_denotes_of_resolveTarget L.nodup hresolve
    refine ⟨m, hm, ?_⟩
    rw [← fits_eq_fitsText hlinked hplain (Array.mem_of_getElem? hid) hfield
      (memberKind_ne_field hfield) (Array.mem_of_getElem? hm)]
    exact fits_iff.2 ⟨hdenotes.kind, hdenotes.name, hdenotes.parameters hfield⟩
  · obtain ⟨types, htypes, hlinks⟩ := hlinked s hs
    exact ⟨types, htypes, hlinks.length_eq⟩

section Overloaded

open Assembly

/-- A class with two methods of a name, one of which takes an array of what the other one takes and
is called. -/
def overloadedClass : ClassSpec :=
  (ClassSpec.plain "a.B")
    |>.addMethod { name := "put", descriptor := "(La/C;)V" }
    |>.addMethod { name := "put", descriptor := "([La/C;)V" }
    |>.addMethod (MethodSpec.withCode { name := "run", descriptor := "()V" }
      [.invokeVirtual ⟨"a.B", "put", "([La/C;)V"⟩, .return])

/-- The call is resolved to the second method. -/
theorem matchesByText_overloaded :
    ∃ c g, ClassRecord.parse overloadedClass.assemble = .ok c ∧
      link (NameTable.ofList []) .fail [c] = .ok g ∧ g.resolve 0 = some 1 ∧ g.MatchesByText := by
  obtain ⟨c, hc, hfacts⟩ : ∃ c, ClassRecord.parse overloadedClass.assemble = .ok c ∧
      decide ((build ((NameTable.ofList []).insertAll (mentions [c])) [c]).PlainDescriptors ∧
        (build ((NameTable.ofList []).insertAll (mentions [c])) [c]).resolve 0 = some 1) = true :=
    exists_of_toOption_map (by decide +kernel)
  obtain ⟨hplain, hresolve⟩ := of_decide_eq_true hfacts
  have hlink : link (NameTable.ofList []) .fail [c] =
      .ok (build ((NameTable.ofList []).insertAll (mentions [c])) [c]) := rfl
  have hparsed : ∀ d ∈ [c], ∃ bytes, ClassRecord.parse bytes = .ok d := by
    intro d hd
    rw [List.mem_singleton.1 hd]
    exact ⟨_, hc⟩
  exact ⟨c, _, hc, hlink, hresolve, matchesByText_of_link hlink hparsed hplain⟩

end Overloaded

end Graph

end TypeAtlas
