import TypeAtlas.Import.Basic
import TypeAtlas.Proofs.Graph.Portrait

/-!
# The order of reading does not matter

Units are read in any order, and each class that is wanted puts its name into the table of names
before it is known whether the import fails. What comes of it is what one reader gives that goes
through the units in order and links the wanted classes on an empty table (`sequentialImport`): the
same error, or the same graph up to new numbers for the types, and the same units left out
(`sameResult_sequentialImport`). Units that are skipped might as well not be there.
-/

set_option autoImplicit false

namespace TypeAtlas

/-! ## Graphs with new numbers for the types -/

/-- A renaming that gives new numbers to types only. -/
structure Renaming.TypesOnly (ρ : Renaming) : Prop where
  members : ρ.members = Equiv.refl MemberId
  annotations : ρ.annotations = Equiv.refl AnnotationId
  targets : ρ.targets = Equiv.refl TargetId
  accesses : ρ.accesses = Equiv.refl AccessId

namespace Graph

/-- Two graphs are the same but for the numbers of the types, and so are their answers. Lists of
accesses are in the same order, for these keep their numbers. -/
structure SameByName (ρ : Renaming) (g h : Graph) : Prop where
  typesOnly : ρ.TypesOnly
  same : SameUpTo ρ g h
  answers : SameAnswers ρ g h
  accessesToMember : ∀ id, (ReverseIndex.ofGraph h).accessesToMember id =
    (ReverseIndex.ofGraph g).accessesToMember id
  accessesToType : ∀ id, (ReverseIndex.ofGraph h).accessesToType (ρ.types id) =
    (ReverseIndex.ofGraph g).accessesToType id

theorem SameUpTo.sameByName {ρ : Renaming} {g h : Graph} (S : SameUpTo ρ g h)
    (htypes : ρ.TypesOnly) : SameByName ρ g h where
  typesOnly := htypes
  same := S
  answers := S.sameAnswers
  accessesToMember id := by
    have heq := S.accessesToMember_eq htypes.accesses id
    rwa [htypes.members] at heq
  accessesToType := S.accessesToType_eq htypes.accesses

end Graph

/-- Classes that stay in their order keep the numbers of all but the types. -/
theorem Reordered.typesOnly {table table' : NameTable} {classes : List ClassRecord}
    (R : Reordered table table' classes classes) : R.renumbering.TypesOnly where
  members := reindex_self (.refl _) (nodup_blockKeys _ R.distinct)
  annotations := reindex_self (.refl _) (nodup_blockKeys _ R.distinct)
  targets := reindex_self (.refl _) (Reordered.nodup_targetKeys classes)
  accesses := reindex_self (.refl _) (nodup_blockKeys _ R.distinct)

/-- If all that was numbered before are names of the classes, it makes no difference to linking but
for the numbers of the types. -/
theorem sameByName_of_dedupe {names : List String} {policy : DuplicatePolicy}
    {classes kept : List ClassRecord}
    (hparsed : ∀ c ∈ classes, ∃ bytes, ClassRecord.parse bytes = .ok c)
    (hnames : ∀ name ∈ names, name ∈ classes.map ClassRecord.name)
    (hkept : ClassRecord.dedupe policy classes = .ok kept) :
    ∃ ρ, Graph.SameByName ρ (Graph.build (NameTable.insertAll {} (mentions kept)) kept)
      (Graph.build ((NameTable.ofList names).insertAll (mentions kept)) kept) := by
  -- the names numbered before are those of kept classes, which linking numbers anyway
  have hmentioned : ∀ name ∈ names, name ∈ mentions kept := by
    intro name hname
    obtain ⟨c, hc, rfl⟩ := List.mem_map.1 (hnames name hname)
    obtain ⟨first, hfirst, hsame⟩ := List.mem_map.1 (name_mem_of_dedupe hkept c hc)
    exact hsame ▸ mem_mentions_of_class hfirst ClassRecord.name_mem_mentions
  have hnil : (NameTable.mk []).names.Nodup := List.nodup_nil
  have R : Reordered (NameTable.insertAll {} (mentions kept))
      ((NameTable.ofList names).insertAll (mentions kept)) kept kept :=
    { nodup := NameTable.nodup_insertAll _ _ hnil
      names := by
        refine (List.perm_ext_iff_of_nodup (NameTable.nodup_insertAll _ _ hnil)
          (NameTable.nodup_insertAll _ _ (NameTable.nodup_ofList names))).2 fun name => ?_
        rw [NameTable.mem_insertAll, NameTable.mem_insertAll, NameTable.mem_ofList]
        constructor
        · rintro (hnot | hmem)
          · exact absurd hnot List.not_mem_nil
          · exact Or.inr hmem
        · rintro (hname | hmem)
          · exact Or.inr (hmentioned name hname)
          · exact Or.inr hmem
      distinct := dedupe_nodup hkept
      perm := List.Perm.refl kept
      agree := targetsAgree_of_parse fun c hc => hparsed c (mem_of_mem_dedupe hkept c hc) }
  exact ⟨R.renumbering, R.sameUpTo.sameByName R.typesOnly⟩

namespace Import

/-! ## One reader -/

/-- Whether a unit is a readable class file. -/
def isReadable (u : ImportUnit) : Bool := (ClassRecord.parse u.content).isOk

/-- The records to link: those of the readable units, in order, without those of packages and
modules unless they are asked for. -/
def wantedRecords (options : ImportOptions) (units : List ImportUnit) : List ClassRecord :=
  (units.filterMap fun u => (ClassRecord.parse u.content).toOption).filter fun c =>
    options.includePackageInfo || !c.isPackageInfo

/-- The units that are no readable class files, in order, with the errors. -/
def malformedUnits (units : List ImportUnit) : List SkippedUnit :=
  units.filterMap fun u =>
    match ClassRecord.parse u.content with
    | .error rejection => some ⟨u.source, rejection⟩
    | .ok _ => none

/-- What a reader gives that goes through the units in order and then links the records: the first
malformed unit, if these are not to be skipped, or what linking gives, and the malformed units. -/
def sequentialImport (options : ImportOptions) (units : List ImportUnit) :
    Except ImportError Import :=
  match options.onMalformed, malformedUnits units with
  | .fail, first :: _ => .error (.malformed first)
  | _, skipped =>
    match Graph.link {} options.duplicates (wantedRecords options units) with
    | .ok graph => .ok ⟨graph, skipped⟩
    | .error conflict => .error (.conflict conflict)

/-- Two imports fail with the same error, or skip the same units and give the same graph but for the
numbers of the types. -/
inductive SameResult : Except ImportError Import → Except ImportError Import → Prop
  | error (e : ImportError) : SameResult (.error e) (.error e)
  | ok {ρ : Renaming} {g h : Graph} (skipped : List SkippedUnit)
    (hsame : Graph.SameByName ρ g h) : SameResult (.ok ⟨g, skipped⟩) (.ok ⟨h, skipped⟩)

section Units

variable {options : ImportOptions} {u : ImportUnit} {units : List ImportUnit}

/-! ## Reading units -/

theorem readUnit_of_error {rejection : Rejection}
    (h : ClassRecord.parse u.content = .error rejection) :
    readUnit options u = .malformed ⟨u.source, rejection⟩ := by
  rw [readUnit, h]

theorem readUnit_of_ok {c : ClassRecord} (h : ClassRecord.parse u.content = .ok c) :
    readUnit options u =
      if options.includePackageInfo || !c.isPackageInfo then .parsed c else .ignored := by
  rw [readUnit, h]
  cases hinfo : c.isPackageInfo <;> cases options.includePackageInfo <;> simp [hinfo]

theorem wantedRecords_cons (options : ImportOptions) (u : ImportUnit) (units : List ImportUnit) :
    wantedRecords options (u :: units) =
      match readUnit options u with
      | .parsed c => c :: wantedRecords options units
      | _ => wantedRecords options units := by
  unfold wantedRecords
  cases hparse : ClassRecord.parse u.content with
  | error rejection =>
    rw [readUnit_of_error hparse, List.filterMap_cons_none (by rw [hparse]; rfl)]
  | ok c =>
    rw [readUnit_of_ok hparse, List.filterMap_cons_some (by rw [hparse]; rfl), List.filter_cons]
    split <;> rfl

theorem malformedUnits_cons (options : ImportOptions) (u : ImportUnit) (units : List ImportUnit) :
    malformedUnits (u :: units) =
      match readUnit options u with
      | .malformed skipped => skipped :: malformedUnits units
      | _ => malformedUnits units := by
  unfold malformedUnits
  cases hparse : ClassRecord.parse u.content with
  | error rejection =>
    rw [readUnit_of_error hparse, List.filterMap_cons_some (by rw [hparse])]
  | ok c =>
    rw [readUnit_of_ok hparse, List.filterMap_cons_none (by rw [hparse])]
    split
    · rename_i heq
      split at heq <;> cases heq
    · rfl

/-- The names that reading gives to the table are those of the wanted records. -/
theorem readNames_eq (options : ImportOptions) (units : List ImportUnit) :
    readNames options units = (wantedRecords options units).map ClassRecord.name := by
  induction units with
  | nil => rfl
  | cons u rest ih =>
    rw [wantedRecords_cons]
    unfold readNames at ih ⊢
    cases hread : readUnit options u with
    | parsed c =>
      rw [List.filterMap_cons_some (by rw [hread]), ih]
      rfl
    | malformed skipped =>
      rw [List.filterMap_cons_none (by rw [hread]), ih]
    | ignored =>
      rw [List.filterMap_cons_none (by rw [hread]), ih]

/-- Sorted with the malformed units skipped, outcomes give the wanted records and those units. -/
theorem sort_skip (options : ImportOptions) (units : List ImportUnit) :
    sort .skip (units.map (readUnit options)) =
      .ok (wantedRecords options units, malformedUnits units) := by
  induction units with
  | nil => rfl
  | cons u rest ih =>
    rw [List.map_cons, wantedRecords_cons, malformedUnits_cons options]
    cases readUnit options u <;> simp only [sort, ih] <;> rfl

/-- Otherwise the first malformed unit is an error. -/
theorem sort_fail (options : ImportOptions) (units : List ImportUnit) :
    sort .fail (units.map (readUnit options)) =
      match malformedUnits units with
      | first :: _ => .error (.malformed first)
      | [] => .ok (wantedRecords options units, []) := by
  induction units with
  | nil => rfl
  | cons u rest ih =>
    rw [List.map_cons, wantedRecords_cons, malformedUnits_cons options]
    cases readUnit options u with
    | parsed c =>
      simp only [sort, ih]
      cases malformedUnits rest <;> rfl
    | malformed skipped => rfl
    | ignored =>
      simp only [sort, ih]

theorem mem_wantedRecords {c : ClassRecord} (h : c ∈ wantedRecords options units) :
    ∃ bytes, ClassRecord.parse bytes = .ok c := by
  obtain ⟨u, -, hparse⟩ := List.mem_filterMap.1 (List.mem_filter.1 h).1
  refine ⟨u.content, ?_⟩
  cases hresult : ClassRecord.parse u.content with
  | error rejection =>
    rw [hresult] at hparse
    cases hparse
  | ok record =>
    rw [hresult] at hparse
    exact congrArg Except.ok (Option.some.inj hparse)

/-! ## Units that might as well not be there -/

theorem wantedRecords_filter (options : ImportOptions) (units : List ImportUnit) :
    wantedRecords options (units.filter isReadable) = wantedRecords options units := by
  unfold wantedRecords
  rw [List.filterMap_filter]
  congr 1
  apply List.filterMap_congr
  intro u _
  unfold isReadable
  cases ClassRecord.parse u.content <;> rfl

/-! ## Linking what was read -/

variable {table : NameTable} {records : List ClassRecord} {skipped : List SkippedUnit}

theorem importWith_of_sort
    (hsort : sort options.onMalformed (units.map (readUnit options)) = .ok (records, skipped)) :
    importWith options table units =
      match Graph.link table options.duplicates records with
      | .ok graph => .ok ⟨graph, skipped⟩
      | .error conflict => .error (.conflict conflict) := by
  unfold importWith
  rw [hsort]
  rfl

theorem importWith_skip (hskip : options.onMalformed = .skip) (table : NameTable)
    (units : List ImportUnit) :
    importWith options table units =
      match Graph.link table options.duplicates (wantedRecords options units) with
      | .ok graph => .ok ⟨graph, malformedUnits units⟩
      | .error conflict => .error (.conflict conflict) := by
  apply importWith_of_sort
  rw [hskip]
  exact sort_skip options units

theorem importWith_fail_of_malformed (hfail : options.onMalformed = .fail) {first : SkippedUnit}
    {rest : List SkippedUnit} (hmalformed : malformedUnits units = first :: rest) :
    importWith options table units = .error (.malformed first) := by
  unfold importWith
  rw [hfail, sort_fail, hmalformed]
  rfl

theorem importWith_fail_of_readable (hfail : options.onMalformed = .fail)
    (hmalformed : malformedUnits units = []) (table : NameTable) :
    importWith options table units =
      match Graph.link table options.duplicates (wantedRecords options units) with
      | .ok graph => .ok ⟨graph, []⟩
      | .error conflict => .error (.conflict conflict) := by
  apply importWith_of_sort
  rw [hfail, sort_fail, hmalformed]

/-- The order in which names are put into the table makes no difference to linking but for the
numbers of the types. -/
theorem sameResult_link {order : List String}
    (horder : ∀ name ∈ order, name ∈ (wantedRecords options units).map ClassRecord.name)
    (skipped : List SkippedUnit) :
    SameResult
      (match Graph.link {} options.duplicates (wantedRecords options units) with
        | .ok graph => .ok ⟨graph, skipped⟩
        | .error conflict => .error (.conflict conflict))
      (match Graph.link (NameTable.ofList order) options.duplicates
          (wantedRecords options units) with
        | .ok graph => .ok ⟨graph, skipped⟩
        | .error conflict => .error (.conflict conflict)) := by
  unfold Graph.link
  cases hkept : ClassRecord.dedupe options.duplicates (wantedRecords options units) with
  | error conflict => exact .error _
  | ok kept =>
    obtain ⟨ρ, hsame⟩ := sameByName_of_dedupe (fun c => mem_wantedRecords) horder hkept
    exact .ok skipped hsame

end Units

theorem collectAll_bytes (root : FileTree) (units : List ImportUnit) :
    ImportUnit.collectAll root (units.map fun u => .bytes u.source u.content) = .ok units := by
  induction units with
  | nil => rfl
  | cons u rest ih =>
    rw [List.map_cons, ImportUnit.collectAll, ih]
    rfl

/-! ## Any order of reading -/

/-- Units in memory are imported as they stand. In whatever order reading them puts the names of the
wanted classes into the table, the import gives what one reader gives; and malformed units that are
skipped make no difference but to the list of what was skipped. -/
theorem sameResult_sequentialImport {options : ImportOptions} {units : List ImportUnit}
    {order : List String} (horder : order.Perm (readNames options units)) :
    (∀ root, importLocations options root (units.map fun u => .bytes u.source u.content) =
      importUnits options units) ∧
    SameResult (sequentialImport options units)
      (importWith options (NameTable.ofList order) units) ∧
    (options.onMalformed = .skip →
      readNames options (units.filter isReadable) = readNames options units ∧
      importWith options (NameTable.ofList order) units =
        (importWith options (NameTable.ofList order) (units.filter isReadable)).map
          fun result => { result with skipped := malformedUnits units }) := by
  have hnames : ∀ name ∈ order, name ∈ (wantedRecords options units).map ClassRecord.name := by
    intro name hname
    rw [← readNames_eq]
    exact horder.mem_iff.1 hname
  refine ⟨fun root => ?_, ?_, fun hskip => ⟨?_, ?_⟩⟩
  · rw [importLocations, collectAll_bytes]
    rfl
  · unfold sequentialImport
    cases hpolicy : options.onMalformed with
    | skip =>
      rw [importWith_skip hpolicy]
      exact sameResult_link hnames _
    | fail =>
      cases hmalformed : malformedUnits units with
      | nil =>
        rw [importWith_fail_of_readable hpolicy hmalformed]
        exact sameResult_link hnames []
      | cons first rest =>
        rw [importWith_fail_of_malformed hpolicy hmalformed]
        exact .error _
  · rw [readNames_eq, readNames_eq, wantedRecords_filter]
  · rw [importWith_skip hskip, importWith_skip hskip, wantedRecords_filter]
    cases Graph.link (NameTable.ofList order) options.duplicates (wantedRecords options units) <;>
      rfl

/-! ### Two classes, a broken unit and a package -/

open Assembly in
/-- Two classes, one below the other, with a unit between them that is no class file, and a unit
that describes a package. -/
def mixedUnits : List ImportUnit :=
  [⟨"A.class", (ClassSpec.plain "A").assemble⟩, ⟨"broken.class", [0xCA, 0xFE, 0xBA]⟩,
    ⟨"package-info.class", (ClassSpec.plain "p.package-info").assemble⟩,
    ⟨"B.class", ((ClassSpec.plain "B").extending "A").assemble⟩]

/-- Options under which malformed units are skipped. -/
def skipping : ImportOptions := { onMalformed := .skip }

/-- The second class may be read before the first one. The broken unit is left out, unless the
options are such that it is an error. -/
theorem sameResult_mixedUnits :
    ["B", "A"].Perm (readNames skipping mixedUnits) ∧
      SameResult (sequentialImport skipping mixedUnits)
        (importWith skipping (NameTable.ofList ["B", "A"]) mixedUnits) ∧
      (∃ g skipped, importWith skipping (NameTable.ofList ["B", "A"]) mixedUnits =
        .ok ⟨g, skipped⟩ ∧ skipped.map SkippedUnit.source = ["broken.class"]) ∧
      ∃ first, importWith {} (NameTable.ofList ["B", "A"]) mixedUnits = .error (.malformed first) ∧
        first.source = "broken.class" := by
  have hnames : readNames skipping mixedUnits = ["A", "B"] := by decide +kernel
  have hmalformed : (malformedUnits mixedUnits).map SkippedUnit.source = ["broken.class"] := by
    decide +kernel
  have horder : ["B", "A"].Perm (readNames skipping mixedUnits) := by
    rw [hnames]
    exact List.Perm.swap "A" "B" []
  obtain ⟨-, hsame, -⟩ := sameResult_sequentialImport horder
  refine ⟨horder, hsame, ?_, ?_⟩
  · have hdistinct : ((wantedRecords skipping mixedUnits).map ClassRecord.name).Nodup := by
      rw [← readNames_eq, hnames]
      decide
    have hlink : ∃ g, Graph.link (NameTable.ofList ["B", "A"]) skipping.duplicates
        (wantedRecords skipping mixedUnits) = .ok g :=
      ⟨_, link_eq_ok_iff.2 ⟨_, dedupe_of_nodup hdistinct, rfl⟩⟩
    obtain ⟨g, hg⟩ := hlink
    rw [importWith_skip rfl, hg]
    exact ⟨g, _, rfl, hmalformed⟩
  · obtain ⟨first, hfirst, hsource⟩ := List.map_eq_singleton_iff.1 hmalformed
    exact ⟨first, importWith_fail_of_malformed rfl hfirst, hsource⟩

end Import

end TypeAtlas
