import TypeAtlas.Proofs.Graph.WellFormed

/-!
# Dependencies and their evidence

A linked type depends on the types that it mentions, and each dependency carries all the evidence
for it. Mentions are entered one at a time into the dependencies found so far; entering one keeps
these exact (`Gathered.enter`), so in the end they hold every type that is mentioned once, in the
order of its first mention, with its evidence in the same order (`gathered_foldl`). What is
mentioned is what the nodes of the type, its members, their accesses and the annotations say
(`Declaration`), with arrays stripped to their element types (`dependencies_exact`).
-/

set_option autoImplicit false

namespace TypeAtlas

/-! ## Types in annotations -/

/-- A value mentions a type: as the type of an enum constant, as a class literal or as the type of a
nested annotation, in itself or in a value inside it. -/
inductive ElementValue.Mentions {τ : Type} (type : τ) : ElementValue τ → Prop
  | enumConst (name : String) : Mentions type (.enumConst type name)
  | classLiteral : Mentions type (.classLiteral type)
  | nested (descriptor : String) (elements : List (String × ElementValue τ)) :
    Mentions type (.nested descriptor type elements)
  | element {descriptor : String} {other : τ} {elements : List (String × ElementValue τ)}
      {element : String × ElementValue τ} (hmem : element ∈ elements)
      (h : Mentions type element.2) : Mentions type (.nested descriptor other elements)
  | entry {values : List (ElementValue τ)} {value : ElementValue τ} (hmem : value ∈ values)
      (h : Mentions type value) : Mentions type (.array values)

/-- An annotation mentions its own type and the types that its values mention. -/
def AnnotationTree.Mentions {τ : Type} (type : τ) (a : AnnotationTree τ) : Prop :=
  a.type = type ∨ ∃ element ∈ a.elements, element.2.Mentions type

namespace ElementValue

variable {τ : Type} {type : τ}

mutual

theorem mem_types_iff (value : ElementValue τ) : type ∈ value.types ↔ value.Mentions type := by
  cases value with
  | const value =>
    rw [types]
    exact ⟨fun h => absurd h List.not_mem_nil, nofun⟩
  | enumConst other name =>
    rw [types, List.mem_singleton]
    constructor
    · rintro rfl
      exact .enumConst name
    · rintro ⟨⟩
      rfl
  | classLiteral other =>
    rw [types, List.mem_singleton]
    constructor
    · rintro rfl
      exact .classLiteral
    · rintro ⟨⟩
      rfl
  | nested descriptor other elements =>
    rw [types, List.mem_cons, mem_typesOfElements_iff elements]
    constructor
    · rintro (rfl | ⟨element, hmem, h⟩)
      · exact .nested descriptor elements
      · exact .element hmem h
    · intro h
      cases h with
      | nested => exact Or.inl rfl
      | element hmem h => exact Or.inr ⟨_, hmem, h⟩
  | array values =>
    rw [types, mem_typesOfValues_iff values]
    constructor
    · rintro ⟨value, hmem, h⟩
      exact .entry hmem h
    · rintro ⟨⟩
      exact ⟨_, ‹_ ∈ values›, ‹_›⟩

theorem mem_typesOfElements_iff (elements : List (String × ElementValue τ)) :
    type ∈ typesOfElements elements ↔ ∃ element ∈ elements, element.2.Mentions type := by
  cases elements with
  | nil => simp [typesOfElements]
  | cons element rest =>
    obtain ⟨name, value⟩ := element
    rw [typesOfElements, List.mem_append, mem_types_iff value, mem_typesOfElements_iff rest]
    simp only [List.mem_cons, exists_eq_or_imp]

theorem mem_typesOfValues_iff (values : List (ElementValue τ)) :
    type ∈ typesOfValues values ↔ ∃ value ∈ values, value.Mentions type := by
  cases values with
  | nil => simp [typesOfValues]
  | cons value rest =>
    rw [typesOfValues, List.mem_append, mem_types_iff value, mem_typesOfValues_iff rest]
    simp only [List.mem_cons, exists_eq_or_imp]

end

end ElementValue

/-- The types of an annotation are those that it mentions, at any depth. -/
theorem AnnotationTree.mem_types_iff {τ : Type} {type : τ} (a : AnnotationTree τ) :
    type ∈ a.types ↔ a.Mentions type := by
  rw [types, List.mem_cons, ElementValue.mem_typesOfElements_iff, Mentions, eq_comm]

/-- The types that the declaration of a member names. -/
def MemberNode.namedTypes (m : MemberNode) : List (TypeId × Evidence) :=
  if m.kind = .field then [(m.returnType, .fieldType m.id)]
  else m.parameters.map (fun type => (type, .parameterType m.id)) ++
    [(m.returnType, .returnType m.id)] ++ m.throws.map fun type => (type, .throws m.id)

namespace Graph

/-! ## Entering mentions -/

section Enter

variable {origin : TypeId} {mention : TypeId × Evidence} {mentions : List (TypeId × Evidence)}
  {found : List Dependency} {d : Dependency}

/-- The dependencies found are those on the types mentioned, with all the evidence for each. -/
structure Gathered (origin : TypeId) (mentions : List (TypeId × Evidence))
    (found : List Dependency) : Prop where
  targets : found.map Dependency.target = distinct (mentions.map Prod.fst)
  origin : ∀ d ∈ found, d.origin = origin
  evidence : ∀ d ∈ found, d.evidence = distinct (bucket mentions d.target)

theorem map_target_enterMention (origin : TypeId) (mention : TypeId × Evidence)
    (found : List Dependency) :
    (enterMention origin mention found).map Dependency.target =
      if mention.1 ∈ found.map Dependency.target then found.map Dependency.target
      else found.map Dependency.target ++ [mention.1] := by
  induction found with
  | nil => rfl
  | cons d rest ih =>
    rw [enterMention]
    by_cases htarget : d.target = mention.1
    -- the entry that is there keeps its target
    · have hsame : (if mention.2 ∈ d.evidence then d
          else { d with further := d.further ++ [mention.2] }).target = d.target := by
        split <;> rfl
      rw [if_pos htarget, List.map_cons, List.map_cons, hsame,
        if_pos (List.mem_cons.2 (Or.inl htarget.symm))]
    · rw [if_neg htarget, List.map_cons, List.map_cons, ih]
      by_cases hrest : mention.1 ∈ rest.map Dependency.target
      · rw [if_pos hrest, if_pos (List.mem_cons_of_mem _ hrest)]
      · have hnew : mention.1 ∉ d.target :: rest.map Dependency.target := by
          rw [List.mem_cons]
          exact not_or.2 ⟨fun h => htarget h.symm, hrest⟩
        rw [if_neg hrest, if_neg hnew, List.cons_append]

/-- An entry after a mention is on another type and was there before, or was there before without
the evidence, or is new. -/
theorem enterMention_cases (hnodup : (found.map Dependency.target).Nodup)
    (h : d ∈ enterMention origin mention found) :
    (d ∈ found ∧ d.target ≠ mention.1) ∨
    (∃ old ∈ found, old.target = mention.1 ∧ d.target = old.target ∧ d.origin = old.origin ∧
      d.evidence = if mention.2 ∈ old.evidence then old.evidence
        else old.evidence ++ [mention.2]) ∨
    (mention.1 ∉ found.map Dependency.target ∧ d = ⟨origin, mention.1, mention.2, []⟩) := by
  induction found with
  | nil =>
    rw [enterMention, List.mem_singleton] at h
    exact Or.inr (Or.inr ⟨List.not_mem_nil, h⟩)
  | cons first rest ih =>
    rw [List.map_cons, List.nodup_cons] at hnodup
    rw [enterMention] at h
    by_cases htarget : first.target = mention.1
    · rw [if_pos htarget, List.mem_cons] at h
      rcases h with rfl | h
      · refine Or.inr (Or.inl ⟨first, List.mem_cons_self, htarget, ?_⟩)
        split
        · exact ⟨rfl, rfl, rfl⟩
        · exact ⟨rfl, rfl, rfl⟩
      -- no entry behind the first one is on the same type
      · refine Or.inl ⟨List.mem_cons_of_mem _ h, fun hsame => hnodup.1 ?_⟩
        exact List.mem_map.2 ⟨d, h, hsame.trans htarget.symm⟩
    · rw [if_neg htarget, List.mem_cons] at h
      rcases h with rfl | h
      · exact Or.inl ⟨List.mem_cons_self, htarget⟩
      · rcases ih hnodup.2 h with ⟨hd, hne⟩ | ⟨old, hold, heq⟩ | ⟨hnew, heq⟩
        · exact Or.inl ⟨List.mem_cons_of_mem _ hd, hne⟩
        · exact Or.inr (Or.inl ⟨old, List.mem_cons_of_mem _ hold, heq⟩)
        · refine Or.inr (Or.inr ⟨?_, heq⟩)
          rw [List.map_cons, List.mem_cons]
          exact not_or.2 ⟨fun hsame => htarget hsame.symm, hnew⟩

/-- Entering a mention keeps the dependencies exact. -/
theorem Gathered.enter (G : Gathered origin mentions found) (mention : TypeId × Evidence) :
    Gathered origin (mentions ++ [mention]) (enterMention origin mention found) := by
  have hnodup : (found.map Dependency.target).Nodup := by
    rw [G.targets]
    exact nodup_distinct _
  have hmem : mention.1 ∈ found.map Dependency.target ↔ mention.1 ∈ mentions.map Prod.fst := by
    rw [G.targets, mem_distinct]
  constructor
  case targets =>
    rw [map_target_enterMention, List.map_append, List.map_singleton, distinct_concat]
    simp only [G.targets, mem_distinct]
  case origin =>
    intro d hd
    rcases enterMention_cases hnodup hd with ⟨hd, -⟩ | ⟨old, hold, -, -, horigin, -⟩ | ⟨-, rfl⟩
    · exact G.origin d hd
    · exact horigin.trans (G.origin old hold)
    · rfl
  case evidence =>
    intro d hd
    rw [bucket_concat]
    rcases enterMention_cases hnodup hd with
      ⟨hd, hne⟩ | ⟨old, hold, htarget, hsame, -, hevidence⟩ | ⟨hnew, rfl⟩
    · rw [if_neg hne.symm]
      exact G.evidence d hd
    -- the evidence of an entry is its bucket, and the bucket takes the new evidence too
    · rw [if_pos (hsame.trans htarget).symm, hsame, distinct_concat, hevidence]
      simp only [G.evidence old hold, mem_distinct]
    · rw [if_pos rfl, bucket_eq_nil fun h => hnew (hmem.2 h)]
      rfl

/-- Mentions entered one after another give exact dependencies. -/
theorem gathered_foldl (origin : TypeId) (mentions : List (TypeId × Evidence)) :
    Gathered origin mentions
      (mentions.foldl (fun found mention => enterMention origin mention found) []) := by
  induction mentions using List.reverseRecOn with
  | nil =>
    exact ⟨rfl, fun d hd => absurd hd List.not_mem_nil, fun d hd => absurd hd List.not_mem_nil⟩
  | append_singleton mentions mention ih =>
    rw [List.foldl_concat]
    exact ih.enter mention

end Enter

/-! ## What a type states -/

section Lookups

variable {α β : Type} {look : Nat → Option α} {ids : List Nat} {nodes : List α}

theorem exists_map_some (h : ∀ i ∈ ids, ∃ node, look i = some node) :
    ∃ nodes : List α, ids.map look = nodes.map some := by
  induction ids with
  | nil => exact ⟨[], rfl⟩
  | cons i rest ih =>
    obtain ⟨node, hnode⟩ := h i List.mem_cons_self
    obtain ⟨nodes, hnodes⟩ := ih fun j hj => h j (List.mem_cons_of_mem _ hj)
    exact ⟨node :: nodes, by rw [List.map_cons, List.map_cons, hnode, hnodes]⟩

/-- What is made of each number is what is made of the node there. -/
theorem flatMap_of_map_eq {ofId : Nat → List β} {ofNode : α → List β}
    (hnodes : ids.map look = nodes.map some)
    (h : ∀ i node, look i = some node → ofId i = ofNode node) :
    ids.flatMap ofId = nodes.flatMap ofNode := by
  induction ids generalizing nodes with
  | nil =>
    cases nodes with
    | nil => rfl
    | cons node rest => cases hnodes
  | cons i rest ih =>
    cases nodes with
    | nil => cases hnodes
    | cons node others =>
      rw [List.map_cons, List.map_cons, List.cons.injEq] at hnodes
      rw [List.flatMap_cons, List.flatMap_cons, h i node hnodes.1, ih hnodes.2]

theorem filterMap_of_map_eq (hnodes : ids.map look = nodes.map some) :
    ids.filterMap look = nodes := by
  have hlook : ids.filterMap look = (ids.map look).filterMap id := by
    rw [List.filterMap_map, Function.id_comp]
  rw [hlook, hnodes, List.filterMap_map, Function.id_comp, List.filterMap_some]

theorem mem_of_map_eq (hnodes : ids.map look = nodes.map some) {node : α} (h : node ∈ nodes) :
    ∃ i ∈ ids, look i = some node := by
  have hmem : some node ∈ ids.map look := hnodes ▸ List.mem_map_of_mem h
  exact List.mem_map.1 hmem

end Lookups

/-- An access with what it aims at. -/
def aim? (g : Graph) (id : AccessId) : Option (Access × AccessTarget) :=
  g.accesses[id]?.bind fun a => g.targets[a.target]?.map fun target => (a, target)

/-- What a type states about others: its members, their accesses, and the annotations of it and then
of its members. -/
structure Declaration (g : Graph) (node : TypeNode) where
  members : List MemberNode
  accesses : List (Access × AccessTarget)
  annotations : List AnnotationNode
  members_eq : node.members.map (g.members[·]?) = members.map some
  accesses_eq : (members.flatMap MemberNode.accesses).map g.aim? = accesses.map some
  annotations_eq : (node.annotations ++ members.flatMap MemberNode.annotations).map
    (g.annotations[·]?) = annotations.map some

/-- The types that a declaration mentions, with the evidence, in order. -/
def Declaration.mentions {g : Graph} {node : TypeNode} (D : g.Declaration node) :
    List (TypeId × Evidence) :=
  D.accesses.map (fun a => (a.2.owner, .access a.1.id)) ++
    node.supertype.toList.map (fun type => (type, .superclass)) ++
    node.interfaces.map (fun type => (type, .interface)) ++
    D.annotations.flatMap (fun a => a.tree.types.map fun type => (type, .annotated a.id)) ++
    D.members.flatMap MemberNode.namedTypes

/-- A list holds the mentions that count: array types stand for their innermost types, and neither
the type itself nor primitive types count. -/
def Counts (g : Graph) (id : TypeId) (mentions counted : List (TypeId × Evidence)) : Prop :=
  ∃ element : TypeId → TypeId,
    (∀ mention ∈ mentions, g.Innermost mention.1 (element mention.1)) ∧
    counted = (mentions.map fun mention => (element mention.1, mention.2)).filter
      fun entry => entry.1 ≠ id ∧ g.types[entry.1]?.map TypeNode.kind ≠ some .primitive

theorem isPrimitiveType_eq_false {g : Graph} {id : TypeId} :
    g.isPrimitiveType id = false ↔ g.types[id]?.map TypeNode.kind ≠ some .primitive := by
  unfold isPrimitiveType
  cases g.types[id]? with
  | none => simp
  | some node => simp [TypeNode.isPrimitive]

/-- A type that counts is neither the type itself nor an array nor primitive. -/
theorem Counts.target {g : Graph} {id : TypeId} {mentions counted : List (TypeId × Evidence)}
    (h : g.Counts id mentions counted) {type : TypeId} (htype : type ∈ counted.map Prod.fst) :
    type ≠ id ∧ ∃ node, g.types[type]? = some node ∧ node.kind ≠ .array ∧
      node.kind ≠ .primitive := by
  obtain ⟨element, hinner, rfl⟩ := h
  obtain ⟨entry, hentry, rfl⟩ := List.mem_map.1 htype
  obtain ⟨hmem, hcount⟩ := List.mem_filter.1 hentry
  obtain ⟨hne, hprimitive⟩ := of_decide_eq_true hcount
  obtain ⟨mention, hmention, rfl⟩ := List.mem_map.1 hmem
  obtain ⟨-, node, hnode, harray⟩ := hinner mention hmention
  refine ⟨hne, node, hnode, harray, fun hkind => hprimitive ?_⟩
  rw [hnode, Option.map_some, hkind]

/-- Only linked types have dependencies. -/
theorem exists_node_of_mem_dependencies {g : Graph} {id : TypeId} {d : Dependency}
    (h : d ∈ g.dependencies id) :
    ∃ node, g.types[id]? = some node ∧ node.fullyImported = true := by
  rw [dependencies] at h
  cases hnode : g.types[id]? with
  | none => simp [hnode] at h
  | some node =>
    cases himported : node.fullyImported with
    | true => exact ⟨node, rfl, himported⟩
    | false => simp [hnode, himported] at h

/-- The dependencies of a linked type are gathered from the mentions that count. -/
theorem gathered_dependencies {g : Graph} {id : TypeId} {node : TypeNode}
    (hnode : g.types[id]? = some node) (himported : node.fullyImported = true) :
    Gathered id (g.countedMentions node) (g.dependencies id) := by
  rw [dependencies, hnode]
  simp only [himported, if_true]
  exact gathered_foldl id _

theorem memberMentions_eq (m : MemberNode) : memberMentions m = MemberNode.namedTypes m := by
  unfold memberMentions MemberNode.namedTypes
  cases m.kind <;> simp

section Stated

variable {g : Graph} {id : TypeId} {node : TypeNode}

/-- In a well-formed graph every type has a declaration. -/
theorem WellFormed.exists_declaration (hwf : g.WellFormed) (hnode : g.types[id]? = some node) :
    Nonempty (g.Declaration node) := by
  have hmembers : ∀ i ∈ node.members, ∃ m, g.members[i]? = some m := by
    intro i hi
    obtain ⟨m, hm, -⟩ := ((hwf.owned.members id node hnode).2 i).1 hi
    exact ⟨m, hm⟩
  obtain ⟨members, hmembers⟩ := exists_map_some hmembers
  have hget : ∀ m ∈ members, ∃ i : MemberId, g.members[i]? = some m := by
    intro m hm
    obtain ⟨i, -, hi⟩ := mem_of_map_eq hmembers hm
    exact ⟨i, hi⟩
  -- an access of a member is there, and so is what it aims at
  have haccesses : ∀ i ∈ members.flatMap MemberNode.accesses, ∃ a, g.aim? i = some a := by
    intro i hi
    obtain ⟨m, hm, hi⟩ := List.mem_flatMap.1 hi
    obtain ⟨j, hj⟩ := hget m hm
    obtain ⟨a, ha, -⟩ := ((hwf.owned.accesses j m hj).2 i).1 hi
    have htarget := (hwf.closed.accesses a (Array.mem_of_getElem? ha)).2
    rw [aim?, ha, Option.bind_some, Array.getElem?_eq_getElem htarget]
    exact ⟨_, rfl⟩
  have hannotations : ∀ i ∈ node.annotations ++ members.flatMap MemberNode.annotations,
      ∃ a, g.annotations[i]? = some a := by
    intro i hi
    rcases List.mem_append.1 hi with hi | hi
    · obtain ⟨a, ha, -⟩ := ((hwf.owned.typeAnnotations id node hnode).2 i).1 hi
      exact ⟨a, ha⟩
    · obtain ⟨m, hm, hi⟩ := List.mem_flatMap.1 hi
      obtain ⟨j, hj⟩ := hget m hm
      obtain ⟨a, ha, -⟩ := ((hwf.owned.memberAnnotations j m hj).2 i).1 hi
      exact ⟨a, ha⟩
  obtain ⟨accesses, haccesses⟩ := exists_map_some haccesses
  obtain ⟨annotations, hannotations⟩ := exists_map_some hannotations
  exact ⟨⟨members, accesses, annotations, hmembers, haccesses, hannotations⟩⟩

/-- What is collected for a type is what it states. -/
theorem typeMentions_eq (hindexed : g.Indexed) (hnode : g.types[id]? = some node)
    (D : g.Declaration node) : g.typeMentions node = D.mentions := by
  have hid := hindexed.types id node hnode
  have hmembers : g.membersOf node.id = D.members := by
    rw [membersOf, hid, hnode]
    exact filterMap_of_map_eq D.members_eq
  have hfrom : g.accessesFromType node.id =
      (D.members.flatMap MemberNode.accesses).filterMap (g.accesses[·]?) := by
    rw [accessesFromType, hid, hnode, List.filterMap_flatMap]
    refine flatMap_of_map_eq D.members_eq fun i m hm => ?_
    rw [accessesFromMember, hm]
  have haccesses : (g.accessesFromType node.id).filterMap g.accessMention =
      D.accesses.map fun a => (a.2.owner, .access a.1.id) := by
    have haim : ∀ i, g.accesses[i]?.bind g.accessMention =
        (g.aim? i).map fun a => (a.2.owner, .access a.1.id) := by
      intro i
      cases ha : g.accesses[i]? with
      | none => simp [aim?, ha]
      | some a => simp [aim?, ha, accessMention, Function.comp_def]
    rw [hfrom, List.filterMap_filterMap]
    simp only [haim]
    rw [← List.map_filterMap, filterMap_of_map_eq D.accesses_eq]
  have hannotations : node.annotations.flatMap g.annotationMentions ++
      D.members.flatMap (fun m => m.annotations.flatMap g.annotationMentions) =
      D.annotations.flatMap fun a => a.tree.types.map fun type => (type, .annotated a.id) := by
    rw [← List.flatMap_assoc, ← List.flatMap_append]
    refine flatMap_of_map_eq D.annotations_eq fun i a ha => ?_
    rw [annotationMentions, ha, hindexed.annotations i a ha]
  have hnamed : memberMentions = MemberNode.namedTypes := funext memberMentions_eq
  unfold typeMentions Declaration.mentions
  rw [hmembers, haccesses, hnamed, ← hannotations]
  simp only [List.append_assoc]

end Stated

section Build

variable {table : NameTable} {classes : List ClassRecord} {id : TypeId} {node : TypeNode}

/-- The types that a type states are mentioned in the records. -/
theorem mentioned_of_mentions (hnode : (build table classes).types[id]? = some node)
    (D : (build table classes).Declaration node) :
    ∀ mention ∈ D.mentions, Mentioned table classes mention.1 := by
  intro mention hmention
  simp only [Declaration.mentions, List.mem_append] at hmention
  rcases hmention with (((haccess | hsuper) | hinterface) | hannotation) | hmember
  · obtain ⟨a, ha, rfl⟩ := List.mem_map.1 haccess
    obtain ⟨i, -, hi⟩ := mem_of_map_eq D.accesses_eq ha
    obtain ⟨access, -, hi⟩ := Option.bind_eq_some_iff.1 hi
    obtain ⟨target, htarget, rfl⟩ := Option.map_eq_some_iff.1 hi
    exact mentioned_of_targets (Array.mem_of_getElem? htarget) _ List.mem_cons_self
  · obtain ⟨type, htype, rfl⟩ := List.mem_map.1 hsuper
    exact mentioned_of_types hnode (List.mem_append_left _ (List.mem_append_left _ htype))
  · obtain ⟨type, htype, rfl⟩ := List.mem_map.1 hinterface
    exact mentioned_of_types hnode (List.mem_append_left _ (List.mem_append_right _ htype))
  · obtain ⟨a, ha, hannotation⟩ := List.mem_flatMap.1 hannotation
    obtain ⟨type, htype, rfl⟩ := List.mem_map.1 hannotation
    obtain ⟨i, -, hi⟩ := mem_of_map_eq D.annotations_eq ha
    exact mentioned_of_annotations (Array.mem_of_getElem? hi) type htype
  · obtain ⟨m, hm, hmember⟩ := List.mem_flatMap.1 hmember
    obtain ⟨i, -, hi⟩ := mem_of_map_eq D.members_eq hm
    apply mentioned_of_members (Array.mem_of_getElem? hi)
    unfold MemberNode.namedTypes at hmember
    split at hmember
    · rw [List.mem_singleton] at hmember
      simp [hmember, MemberNode.typeIds]
    · simp only [List.mem_append, List.mem_map, List.mem_singleton] at hmember
      rcases hmember with (⟨type, htype, rfl⟩ | rfl) | ⟨type, htype, rfl⟩
      · simp [MemberNode.typeIds, htype]
      · simp [MemberNode.typeIds]
      · simp [MemberNode.typeIds, htype]

/-- The mentions that are counted are those that count. -/
theorem Linkable.counts_countedMentions (L : Linkable table classes)
    (hnode : (build table classes).types[id]? = some node)
    (D : (build table classes).Declaration node) :
    (build table classes).Counts id D.mentions ((build table classes).countedMentions node) := by
  refine ⟨(build table classes).elementType, ?_, ?_⟩
  · intro mention hmention
    exact L.innermost_elementType (mentioned_of_mentions hnode D mention hmention)
  · rw [countedMentions, typeMentions_eq L.indexed hnode D, L.indexed.types id node hnode]
    apply List.filter_congr
    intro entry _
    rw [Bool.eq_iff_iff, Bool.and_eq_true, bne_iff_ne, Bool.not_eq_true', isPrimitiveType_eq_false,
      decide_eq_true_iff]

/-- A dependency leads from its type to another one, which is neither an array nor primitive. -/
theorem Linkable.ends_of_mem_dependencies (L : Linkable table classes) {d : Dependency}
    (hd : d ∈ (build table classes).dependencies id) :
    d.origin = id ∧ d.target ≠ id ∧ ∃ target, (build table classes).types[d.target]? = some target ∧
      target.kind ≠ .array ∧ target.kind ≠ .primitive := by
  obtain ⟨node, hnode, himported⟩ := exists_node_of_mem_dependencies hd
  have G := gathered_dependencies hnode himported
  obtain ⟨D⟩ := L.wellFormed.exists_declaration hnode
  have htarget : d.target ∈ ((build table classes).countedMentions node).map Prod.fst := by
    rw [← mem_distinct, ← G.targets]
    exact List.mem_map_of_mem hd
  exact ⟨G.origin d hd, (L.counts_countedMentions hnode D).target htarget⟩

end Build

/-! ## Exact dependencies -/

/-- The dependencies of a type known by name only are none. Those of a linked type are on the types
that its declaration mentions, with array types replaced by their innermost element types and
without the type itself and primitive types: each of them once, in the order of the first mentions,
with all the evidence for it in order. Annotations mention types at any depth. -/
theorem dependencies_exact {g : Graph} {names : List String} {policy : DuplicatePolicy}
    {classes : List ClassRecord} (hlink : link (NameTable.ofList names) policy classes = .ok g)
    (id : TypeId) :
    ((∀ node, g.types[id]? = some node → node.fullyImported = false) → g.dependencies id = []) ∧
    (∀ node, g.types[id]? = some node → node.fullyImported = true →
      ∃ (D : g.Declaration node) (counted : List (TypeId × Evidence)),
        g.Counts id D.mentions counted ∧
        FirstOccurrences (counted.map Prod.fst) ((g.dependencies id).map Dependency.target) ∧
        (∀ d ∈ g.dependencies id, FirstOccurrences (bucket counted d.target) d.evidence) ∧
        ∀ a ∈ D.annotations, ∀ type, type ∈ a.tree.types ↔ a.tree.Mentions type) ∧
    ∀ d ∈ g.dependencies id, d.origin = id ∧ d.target ≠ id ∧ d.evidence ≠ [] ∧
      ∃ target, g.types[d.target]? = some target ∧ target.kind ≠ .array ∧
        target.kind ≠ .primitive := by
  obtain ⟨table, kept, -, rfl, L⟩ := linkable_of_link hlink
  refine ⟨?_, ?_, ?_⟩
  · intro hstub
    refine List.eq_nil_iff_forall_not_mem.2 fun d hd => ?_
    obtain ⟨node, hnode, himported⟩ := exists_node_of_mem_dependencies hd
    rw [hstub node hnode] at himported
    cases himported
  · intro node hnode himported
    obtain ⟨D⟩ := L.wellFormed.exists_declaration hnode
    have G := gathered_dependencies hnode himported
    refine ⟨D, _, L.counts_countedMentions hnode D, ?_, ?_, fun a _ type => a.tree.mem_types_iff⟩
    · rw [G.targets]
      exact firstOccurrences_distinct _
    · intro d hd
      rw [G.evidence d hd]
      exact firstOccurrences_distinct _
  · intro d hd
    obtain ⟨horigin, hne, htarget⟩ := L.ends_of_mem_dependencies hd
    exact ⟨horigin, hne, List.cons_ne_nil _ _, htarget⟩

/-! ### A class that mentions types in all places -/

/-- A class with an annotation that names types inside its values, an interface, a field of type
`A[][]`, and a method that calls `C.m()` twice. -/
def mentioningClass : ClassRecord :=
  { annotatedCaller with
    interfaces := ["I"]
    annotations := [⟨"LMark;", "Mark", [("value", .array [.enumConst "Level" "HIGH",
      .nested "LInner;" "Inner" [("type", .classLiteral "A[]")]])]⟩]
    fields := [⟨"f", "[[LA;", .array (.array (.object "A")), Modifiers.none, none, []⟩] }

/-- The names that the class mentions. -/
def mentionedNames : NameTable :=
  ⟨["java.lang.Object", "D", "I", "Mark", "Level", "Inner", "A", "A[]", "A[][]", "void", "C"]⟩

theorem link_mentioningClass : link (NameTable.ofList []) .fail [mentioningClass] =
    .ok (build mentionedNames [mentioningClass]) := by
  have hmentions : mentions [mentioningClass] =
      ["java.lang.Object", "D", "D", "java.lang.Object", "I", "Mark", "Level", "Inner", "A", "A[]",
        "A", "A[]", "A[][]", "void", "C", "void", "C", "void"] := by
    cbv
  exact link_of_mentions (by decide) hmentions rfl

/-- The field and the class literal count for `A`, and each type is listed where it is mentioned
first. -/
theorem dependencies_mentioningClass :
    (build mentionedNames [mentioningClass]).dependencies 1 =
      [⟨1, 10, .access 0, [.access 1]⟩, ⟨1, 0, .superclass, []⟩, ⟨1, 2, .interface, []⟩,
        ⟨1, 3, .annotated 0, []⟩, ⟨1, 4, .annotated 0, []⟩, ⟨1, 5, .annotated 0, []⟩,
        ⟨1, 6, .annotated 0, [.fieldType 0]⟩] := by
  have hself : ∀ id ∈ [10, 0, 2, 3, 4, 5, 6, 9],
      (build mentionedNames [mentioningClass]).elementType id = id := by
    intro id hid
    apply elementType_of_none
    revert id hid
    decide +kernel
  have hcomponents : (build mentionedNames [mentioningClass]).componentType? 7 = some 6 ∧
      (build mentionedNames [mentioningClass]).componentType? 8 = some 7 := by
    decide +kernel
  have hone : (build mentionedNames [mentioningClass]).elementType 7 = 6 :=
    (elementType_of_component hcomponents.1).trans (hself 6 (by decide))
  have htwo : (build mentionedNames [mentioningClass]).elementType 8 = 6 :=
    (elementType_of_component hcomponents.2).trans hone
  have hnode : (build mentionedNames [mentioningClass]).types[1]?.map (fun node =>
      (node.id, node.fullyImported, (build mentionedNames [mentioningClass]).typeMentions node)) =
      some (1, true, [(10, .access 0), (10, .access 1), (0, .superclass), (2, .interface),
        (3, .annotated 0), (4, .annotated 0), (5, .annotated 0), (7, .annotated 0),
        (8, .fieldType 0), (9, .returnType 1)]) := by
    decide +kernel
  obtain ⟨node, hnode, hfacts⟩ := Option.map_eq_some_iff.1 hnode
  simp only [Prod.mk.injEq] at hfacts
  obtain ⟨hid, himported, hmentions⟩ := hfacts
  rw [dependencies, hnode]
  simp only [himported, if_true, countedMentions, hmentions, hid, List.map_cons, List.map_nil, hone,
    htwo]
  simp (disch := decide) only [hself]
  decide +kernel

/-- The dependencies of the class are on the types that it mentions, and on no array. -/
theorem dependencies_exact_mentioningClass :
    link (NameTable.ofList []) .fail [mentioningClass] =
      .ok (build mentionedNames [mentioningClass]) ∧
    (∃ (node : TypeNode) (D : (build mentionedNames [mentioningClass]).Declaration node)
        (counted : List (TypeId × Evidence)), node.name = "D" ∧
      (build mentionedNames [mentioningClass]).Counts 1 D.mentions counted ∧
      FirstOccurrences (counted.map Prod.fst) [10, 0, 2, 3, 4, 5, 6] ∧
      FirstOccurrences (bucket counted 6) [.annotated 0, .fieldType 0]) ∧
    (build mentionedNames [mentioningClass]).dependencies 6 = [] := by
  have himported : (build mentionedNames [mentioningClass]).types[1]?.map (fun node =>
      (node.name, node.fullyImported)) = some ("D", true) := by
    decide +kernel
  have hstub : (build mentionedNames [mentioningClass]).types[6]?.map TypeNode.fullyImported =
      some false := by
    decide +kernel
  obtain ⟨node, hnode, hfacts⟩ := Option.map_eq_some_iff.1 himported
  rw [Prod.mk.injEq] at hfacts
  obtain ⟨D, counted, hcounts, htargets, hevidence, -⟩ :=
    (dependencies_exact link_mentioningClass 1).2.1 node hnode hfacts.2
  rw [dependencies_mentioningClass] at htargets hevidence
  refine ⟨link_mentioningClass, ⟨node, D, counted, hfacts.1, hcounts, htargets, ?_⟩, ?_⟩
  · exact hevidence ⟨1, 6, .annotated 0, [.fieldType 0]⟩ (by decide)
  · refine (dependencies_exact link_mentioningClass 6).1 fun other hother => ?_
    rw [hother] at hstub
    exact Option.some.inj hstub

end Graph

end TypeAtlas
