import TypeAtlas.Proofs.ClassFile.InstructionSet

/-!
# What the scan of a code body finds

The scan of a code body succeeds if the body splits into instructions and every reference among them
leads to a member of the kind that the instruction asks for (`Resolves`). It returns the references
in the order of their instructions, each with the names behind it, its place and its line
(`Refers`). Both are stated about the instructions that a body splits into, and the scan enters only
where it is shown to follow them (`scanFrom_of_splits`, `splits_of_scanFrom`).
-/

set_option autoImplicit false

namespace TypeAtlas.ClassFile

/-! ## Lines -/

/-- An entry of a line table covers a place in the code: it starts at or before the place, no other
such entry starts behind it, and none after it in the table starts where it does. -/
def Covers (lines : List LineNumber) (pc : Nat) (entry : LineNumber) : Prop :=
  entry.startPc.toNat ≤ pc ∧ ∃ before after, lines = before ++ entry :: after ∧
    (∀ e ∈ before, e.startPc.toNat ≤ pc → e.startPc ≤ entry.startPc) ∧
    ∀ e ∈ after, e.startPc.toNat ≤ pc → e.startPc < entry.startPc

/-- The line of a place in the code: that of the entry which covers it, or zero if no entry starts
at or before it. -/
def HasLine (lines : List LineNumber) (pc : Nat) (line : UInt16) : Prop :=
  (∃ entry, Covers lines pc entry ∧ entry.line = line) ∨
    ((∀ e ∈ lines, pc < e.startPc.toNat) ∧ line = 0)

section Lines

variable {lines : List LineNumber} {pc : Nat} {entry last : LineNumber}

theorem Covers.mem (h : Covers lines pc entry) : entry ∈ lines := by
  obtain ⟨-, before, after, rfl, -⟩ := h
  exact List.mem_append_right before List.mem_cons_self

/-- No entry that starts at or before the place starts behind the covering one. -/
theorem Covers.startPc_le (h : Covers lines pc entry) :
    ∀ e ∈ lines, e.startPc.toNat ≤ pc → e.startPc ≤ entry.startPc := by
  obtain ⟨-, before, after, rfl, hbefore, hafter⟩ := h
  intro e he hle
  rcases List.mem_append.1 he with he | he
  · exact hbefore e he hle
  · rcases List.mem_cons.1 he with rfl | he
    · exact UInt16.le_refl _
    · exact UInt16.le_of_lt (hafter e he hle)

/-- The last entry covers the place if none before it starts behind it. -/
theorem covers_last (hlast : last.startPc.toNat ≤ pc)
    (hbefore : ∀ e ∈ lines, e.startPc.toNat ≤ pc → e.startPc ≤ last.startPc) :
    Covers (lines ++ [last]) pc last :=
  ⟨hlast, lines, [], rfl, hbefore, fun _ he => absurd he List.not_mem_nil⟩

/-- An entry goes on covering the place if the next one starts behind the place or before the
entry. -/
theorem Covers.concat (h : Covers lines pc entry)
    (hlast : last.startPc.toNat ≤ pc → last.startPc < entry.startPc) :
    Covers (lines ++ [last]) pc entry := by
  obtain ⟨hle, before, after, rfl, hbefore, hafter⟩ := h
  refine ⟨hle, before, after ++ [last], ?_, hbefore, ?_⟩
  · rw [List.append_assoc, List.cons_append]
  · intro e he hstart
    rcases List.mem_append.1 he with he | he
    · exact hafter e he hstart
    · rw [List.mem_singleton.1 he] at hstart ⊢
      exact hlast hstart

/-- The search for the covering entry finds none only if none starts at or before the place. -/
theorem coveringLine_spec (lines : List LineNumber) (pc : Nat) :
    match coveringLine pc lines with
    | some entry => Covers lines pc entry
    | none => ∀ e ∈ lines, pc < e.startPc.toNat := by
  induction lines using List.reverseRecOn with
  | nil => exact fun e he => absurd he List.not_mem_nil
  | append_singleton lines last ih =>
    rw [coveringLine_concat]
    by_cases hlast : last.startPc.toNat ≤ pc
    · rw [if_pos hlast]
      cases hbest : coveringLine pc lines with
      | none =>
        -- the last entry is the only one that starts at or before the place
        rw [hbest] at ih
        exact covers_last hlast fun e he hle => absurd hle (Nat.not_le.2 (ih e he))
      | some best =>
        rw [hbest] at ih
        by_cases hreplace : best.startPc ≤ last.startPc
        · simp only [if_pos hreplace]
          exact covers_last hlast fun e he hle => UInt16.le_trans (ih.startPc_le e he hle) hreplace
        · simp only [if_neg hreplace]
          exact ih.concat fun _ => UInt16.not_le.1 hreplace
    · rw [if_neg hlast]
      cases hbest : coveringLine pc lines with
      | none =>
        rw [hbest] at ih
        intro e he
        rcases List.mem_append.1 he with he | he
        · exact ih e he
        · rw [List.mem_singleton.1 he]
          exact Nat.not_le.1 hlast
      | some best =>
        rw [hbest] at ih
        exact ih.concat fun hle => absurd hle hlast

/-- Two entries that cover a place are the same one. -/
theorem Covers.unique {entry' : LineNumber} (h : Covers lines pc entry)
    (h' : Covers lines pc entry') : entry = entry' := by
  obtain ⟨hle, before, after, hlines, hbefore, hafter⟩ := h
  obtain ⟨hle', before', after', hlines', hbefore', hafter'⟩ := h'
  -- of two different ones, the first would have to start behind the second and not behind it
  rw [hlines] at hlines'
  rcases List.append_eq_append_iff.1 hlines' with ⟨between, rfl, hback⟩ | ⟨between, rfl, hback⟩
  · cases between with
    | nil => exact (List.cons.inj hback).1
    | cons e between =>
      obtain ⟨rfl, rfl⟩ := List.cons.inj hback
      have hlt := hafter entry' (List.mem_append_right between List.mem_cons_self) hle'
      have hge := hbefore' entry (List.mem_append_right before List.mem_cons_self) hle
      exact absurd hlt (UInt16.not_lt.2 hge)
  · cases between with
    | nil => exact (List.cons.inj hback).1.symm
    | cons e between =>
      obtain ⟨rfl, rfl⟩ := List.cons.inj hback
      have hlt := hafter' entry (List.mem_append_right between List.mem_cons_self) hle
      have hge := hbefore entry' (List.mem_append_right before' List.mem_cons_self) hle'
      exact absurd hlt (UInt16.not_lt.2 hge)

theorem hasLine_lineAt (lines : List LineNumber) (pc : Nat) :
    HasLine lines pc (lineAt pc lines) := by
  have hspec := coveringLine_spec lines pc
  unfold lineAt
  cases hcover : coveringLine pc lines with
  | none =>
    rw [hcover] at hspec
    exact Or.inr ⟨hspec, rfl⟩
  | some entry =>
    rw [hcover] at hspec
    exact Or.inl ⟨entry, hspec, rfl⟩

/-- A place has one line. -/
theorem HasLine.unique {line line' : UInt16} (h : HasLine lines pc line)
    (h' : HasLine lines pc line') : line = line' := by
  rcases h with ⟨entry, hcovers, rfl⟩ | ⟨hnone, rfl⟩
  · rcases h' with ⟨entry', hcovers', rfl⟩ | ⟨hnone', -⟩
    · rw [hcovers.unique hcovers']
    · exact absurd hcovers.1 (Nat.not_le.2 (hnone' entry hcovers.mem))
  · rcases h' with ⟨entry', hcovers', -⟩ | ⟨-, rfl⟩
    · exact absurd hcovers'.1 (Nat.not_le.2 (hnone entry' hcovers'.mem))
    · rfl

/-- The line that is looked up is the line of the place. -/
theorem hasLine_iff {line : UInt16} : HasLine lines pc line ↔ lineAt pc lines = line := by
  constructor
  · exact fun h => (hasLine_lineAt lines pc).unique h
  · rintro rfl
    exact hasLine_lineAt lines pc

end Lines

/-! ## References -/

/-- The name of the type that a class constant stands for: a plain name in its binary form, or an
array type by its descriptor. -/
inductive OwnerNamed (owner : String) : String → Prop
  | plain (h : owner.toList.head? ≠ some '[') : OwnerNamed owner (Text.binaryName owner)
  | array {type : FieldType} (h : owner.toList.head? = some '[')
      (htype : FieldType.parse owner = .ok type) : OwnerNamed owner type.typeName

theorem ownerNamed_iff {owner name : String} :
    typeNameOfClassConstant owner = .ok name ↔ OwnerNamed owner name := by
  unfold typeNameOfClassConstant
  constructor
  · intro h
    split at h
    · rename_i hhead
      cases htype : FieldType.parse owner with
      | error fault =>
        rw [htype] at h
        cases h
      | ok type =>
        rw [htype] at h
        cases h
        exact .array (by rw [hhead]; rfl) htype
    · rename_i hhead
      cases h
      refine .plain fun hbracket => ?_
      obtain ⟨rest, hrest⟩ := List.head?_eq_some_iff.1 hbracket
      exact hhead rest hrest
  · intro h
    cases h with
    | plain hhead =>
      split
      · rename_i hbracket
        rw [hbracket] at hhead
        exact absurd rfl hhead
      · rfl
    | array hhead htype =>
      obtain ⟨rest, hrest⟩ := List.head?_eq_some_iff.1 hhead
      rw [hrest]
      show (FieldType.parse owner).map FieldType.typeName = _
      rw [htype]
      rfl

/-- The types that a member's descriptor spells, by name, if the member is of the kind that an
instruction asks for: a field for an access to a field, and a method of a class or an interface for
a call. -/
inductive TypesSpelled (target : MemberRef) : Bool → List String → String → Prop
  | field {type : FieldType} (hkind : target.kind = .field)
      (htype : FieldType.parse target.descriptor = .ok type) :
      TypesSpelled target true [] type.typeName
  | call {type : MethodType} (hkind : target.kind = .method ∨ target.kind = .interfaceMethod)
      (htype : MethodType.parse target.descriptor = .ok type) :
      TypesSpelled target false (type.params.map FieldType.typeName) type.result.typeName

theorem kind_cases (kind : MemberRefKind) :
    kind = .field ∨ (kind == .field) = false ∧ (kind = .method ∨ kind = .interfaceMethod) := by
  cases kind with
  | field => exact Or.inl rfl
  | method => exact Or.inr ⟨rfl, Or.inl rfl⟩
  | interfaceMethod => exact Or.inr ⟨rfl, Or.inr rfl⟩

theorem signatureTypes_of_call {kind : MemberRefKind} (h : kind = .method ∨ kind = .interfaceMethod)
    (descriptor : String) :
    signatureTypes kind descriptor = (MethodType.parse descriptor).map fun type =>
      (type.params.map FieldType.typeName, type.result.typeName) := by
  rcases h with rfl | rfl
  · rfl
  · rfl

/-- The types are found exactly if the member is of the right kind and its descriptor is one of that
kind. -/
theorem typesSpelled_iff {target : MemberRef} {isField : Bool} {parameterTypes : List String}
    {valueType : String} :
    ((target.kind == .field) = isField ∧
        signatureTypes target.kind target.descriptor = .ok (parameterTypes, valueType)) ↔
      TypesSpelled target isField parameterTypes valueType := by
  constructor
  · rintro ⟨rfl, h⟩
    rcases kind_cases target.kind with hkind | ⟨hnot, hkind⟩
    · rw [hkind] at h
      obtain ⟨type, htype, htypes⟩ := map_eq_ok_iff.1 h
      cases htypes
      rw [hkind]
      exact .field hkind htype
    · rw [signatureTypes_of_call hkind] at h
      obtain ⟨type, htype, htypes⟩ := map_eq_ok_iff.1 h
      cases htypes
      rw [hnot]
      exact .call hkind htype
  · intro h
    cases h with
    | field hkind htype =>
      rw [hkind]
      exact ⟨rfl, map_eq_ok_iff.2 ⟨_, htype, rfl⟩⟩
    | call hkind htype =>
      refine ⟨?_, ?_⟩
      · rcases hkind with hkind | hkind <;> (rw [hkind]; rfl)
      · rw [signatureTypes_of_call hkind]
        exact map_eq_ok_iff.2 ⟨_, htype, rfl⟩

/-- An instruction refers to a member: the first two operand bytes are the pool index of a member of
the right kind, with a descriptor of that kind, and the owner is a plain name or an array type. -/
structure Resolves (pool : ConstantPool) (i : PlacedInstruction) (kind : ReferenceKind)
    (target : MemberRef) : Prop where
  opcode : i.opcode = kind.opcode
  index : ∃ index following, i.operands = word16 index ++ following ∧
    pool.getMemberRef index = .ok target
  types : ∃ parameterTypes valueType,
    TypesSpelled target kind.isFieldAccess parameterTypes valueType
  owner : ∃ name, OwnerNamed target.owner name

/-- What is recorded for an instruction that refers to a member. -/
structure Refers (pool : ConstantPool) (lines : List LineNumber) (i : PlacedInstruction)
    (r : MemberReference) : Prop where
  place : r.pc = i.pc
  line : HasLine lines i.pc r.line
  target : ∃ target, Resolves pool i r.kind target ∧ OwnerNamed target.owner r.owner ∧
    TypesSpelled target r.kind.isFieldAccess r.parameterTypes r.valueType ∧
    r.name = target.name ∧ r.descriptor = target.descriptor ∧
    (r.ownerIsInterface = true ↔ target.kind = .interfaceMethod)

/-! ## One instruction -/

/-- Whether an instruction is one of those that refer to members. -/
def PlacedInstruction.isReference (i : PlacedInstruction) : Bool :=
  (ReferenceKind.ofOpcode? i.opcode).isSome

theorem ofOpcode?_eq_some_iff {opcode : UInt8} {kind : ReferenceKind} :
    ReferenceKind.ofOpcode? opcode = some kind ↔ opcode = kind.opcode := by
  constructor
  · intro h
    unfold ReferenceKind.ofOpcode? at h
    split at h <;> cases h <;> rfl
  · rintro rfl
    exact ofOpcode?_opcode kind

theorem operandCount_opcode (kind : ReferenceKind) :
    operandCount kind.opcode = some 2 ∨ operandCount kind.opcode = some 4 := by
  cases kind <;> decide

/-- An access to a field or a call is an instruction with a pool index. -/
theorem exists_index {pc : Nat} {kind : ReferenceKind} {operands : Bytes}
    (h : Shaped pc kind.opcode operands) :
    ∃ following, operands = word16 (UInt16.ofNat (ofBigEndian (operands.take 2))) ++ following := by
  have hcount : operandCount kind.opcode = some operands.length := by
    generalize hopcode : kind.opcode = opcode at h
    cases h with
    | plain h => exact h
    | _ => cases kind <;> cases hopcode
  have hlength : 2 ≤ operands.length := by
    have hcases := operandCount_opcode kind
    simp only [hcount, Option.some.injEq] at hcases
    omega
  refine ⟨operands.drop 2, ?_⟩
  rw [word16_ofBigEndian (List.length_take_of_le hlength), List.take_append_drop]

theorem ofBigEndian_take_word16 (index : UInt16) (following : Bytes) :
    UInt16.ofNat (ofBigEndian ((word16 index ++ following).take 2)) = index := by
  rw [List.take_left' (length_word16 index), ofBigEndian_word16]

/-- A reference is recorded exactly if the index leads to a member of the right kind, with what the
names behind it say. -/
theorem memberReference_eq_ok_iff {pool : ConstantPool} {lines : List LineNumber} {pc : Nat}
    {kind : ReferenceKind} {index : PoolIndex} {r : MemberReference} :
    memberReference pool lines pc kind index = .ok r ↔
      ∃ target, pool.getMemberRef index = .ok target ∧
        TypesSpelled target kind.isFieldAccess r.parameterTypes r.valueType ∧
        OwnerNamed target.owner r.owner ∧
        r = ⟨kind, r.owner, target.kind == .interfaceMethod, target.name, target.descriptor,
          r.parameterTypes, r.valueType, pc, lineAt pc lines⟩ := by
  constructor
  · intro h
    obtain ⟨target, htarget, h⟩ := bind_eq_ok_iff.1 h
    split at h
    · cases h
    · rename_i hkind
      obtain ⟨⟨parameterTypes, valueType⟩, htypes, h⟩ := bind_eq_ok_iff.1 h
      obtain ⟨owner, howner, h⟩ := bind_eq_ok_iff.1 h
      cases h
      have hsame : (target.kind == .field) = kind.isFieldAccess := by
        simpa only [bne_iff_ne, ne_eq, Decidable.not_not] using hkind
      exact ⟨target, htarget, typesSpelled_iff.1 ⟨hsame, htypes⟩, ownerNamed_iff.1 howner, rfl⟩
  · rintro ⟨target, htarget, htypes, howner, hr⟩
    obtain ⟨hsame, htypes⟩ := typesSpelled_iff.2 htypes
    refine bind_eq_ok_iff.2 ⟨target, htarget, ?_⟩
    have hkind : ¬ ((target.kind == .field) != kind.isFieldAccess) = true := by
      rw [hsame, bne_self_eq_false]
      exact Bool.false_ne_true
    rw [if_neg hkind]
    refine bind_eq_ok_iff.2 ⟨_, htypes, bind_eq_ok_iff.2 ⟨_, ownerNamed_iff.2 howner, ?_⟩⟩
    exact congrArg Except.ok hr.symm

/-- An instruction that refers to no member is passed over. -/
theorem referenceAt_of_not_isReference {i : PlacedInstruction} (h : i.isReference = false)
    (pool : ConstantPool) (lines : List LineNumber) :
    referenceAt pool lines i.pc i.opcode i.operands = .ok none := by
  have hnone : ReferenceKind.ofOpcode? i.opcode = none :=
    Option.not_isSome_iff_eq_none.1 (Bool.eq_false_iff.1 h)
  unfold referenceAt
  rw [hnone]

/-- The first word of the operands is the only index in them. -/
theorem eq_of_word16_append {index index' : UInt16} {following following' : Bytes}
    (h : word16 index ++ following = word16 index' ++ following') : index = index' := by
  have htake := congrArg (fun operands => UInt16.ofNat (ofBigEndian (operands.take 2))) h
  simp only [ofBigEndian_take_word16] at htake
  exact htake

/-- What is recorded for a kind of reference and an index is what an instruction with this opcode
and this index refers to. -/
theorem memberReference_eq_ok_iff_refers {pool : ConstantPool} {lines : List LineNumber}
    {i : PlacedInstruction} {kind : ReferenceKind} {index : PoolIndex} {following : Bytes}
    {r : MemberReference} (hopcode : i.opcode = kind.opcode)
    (hoperands : i.operands = word16 index ++ following) :
    memberReference pool lines i.pc kind index = .ok r ↔ Refers pool lines i r := by
  rw [memberReference_eq_ok_iff]
  constructor
  · rintro ⟨target, htarget, htypes, howner, hrecord⟩
    have hresolves : Resolves pool i kind target :=
      ⟨hopcode, ⟨index, following, hoperands, htarget⟩, ⟨_, _, htypes⟩, ⟨_, howner⟩⟩
    rw [hrecord]
    refine ⟨rfl, hasLine_lineAt lines i.pc, target, hresolves, howner, htypes, rfl, rfl, ?_⟩
    exact beq_iff_eq
  · rintro ⟨hplace, hline, target, hresolves, howner, htypes, hname, hdescriptor, hinterface⟩
    obtain ⟨index', following', hoperands', htarget⟩ := hresolves.index
    obtain rfl : index = index' := eq_of_word16_append (hoperands.symm.trans hoperands')
    -- the opcode determines the kind of the reference
    have hkind : r.kind = kind := by
      have hopcodes : ReferenceKind.ofOpcode? i.opcode = some r.kind :=
        ofOpcode?_eq_some_iff.2 hresolves.opcode
      rw [ofOpcode?_eq_some_iff.2 hopcode] at hopcodes
      exact (Option.some.inj hopcodes).symm
    rw [hkind] at htypes
    refine ⟨target, htarget, htypes, howner, ?_⟩
    obtain ⟨_, _, _, _, _, _, _, _, _⟩ := r
    have hline' := hasLine_iff.1 hline
    simp only at hkind hname hdescriptor hplace hinterface hline'
    rw [MemberReference.mk.injEq]
    refine ⟨hkind, rfl, ?_, hname, hdescriptor, rfl, rfl, hplace, hline'.symm⟩
    exact Bool.eq_iff_iff.2 (hinterface.trans beq_iff_eq.symm)

/-- An instruction that refers to a member is recorded exactly if it resolves. -/
theorem referenceAt_eq_ok_iff {i : PlacedInstruction} (hshaped : Shaped i.pc i.opcode i.operands)
    (hreference : i.isReference = true) {pool : ConstantPool} {lines : List LineNumber}
    {here : Option MemberReference} :
    referenceAt pool lines i.pc i.opcode i.operands = .ok here ↔
      ∃ r, here = some r ∧ Refers pool lines i r := by
  obtain ⟨kind, hkind⟩ := Option.isSome_iff_exists.1 hreference
  have hopcode := ofOpcode?_eq_some_iff.1 hkind
  rw [hopcode] at hshaped
  obtain ⟨following, hoperands⟩ := exists_index hshaped
  unfold referenceAt
  rw [hkind]
  show (memberReference pool lines i.pc kind _).map some = .ok here ↔ _
  rw [map_eq_ok_iff]
  simp only [memberReference_eq_ok_iff_refers hopcode hoperands]
  constructor
  · rintro ⟨r, hr, rfl⟩
    exact ⟨r, rfl, hr⟩
  · rintro ⟨r, rfl, hr⟩
    exact ⟨r, hr, rfl⟩

/-- An instruction resolves exactly if there is something to record for it. -/
theorem exists_refers_iff {pool : ConstantPool} {lines : List LineNumber} {i : PlacedInstruction} :
    (∃ r, Refers pool lines i r) ↔ ∃ kind target, Resolves pool i kind target := by
  constructor
  · rintro ⟨r, h⟩
    obtain ⟨target, hresolves, -⟩ := h.target
    exact ⟨r.kind, target, hresolves⟩
  · rintro ⟨kind, target, hresolves⟩
    obtain ⟨parameterTypes, valueType, htypes⟩ := hresolves.types
    obtain ⟨owner, howner⟩ := hresolves.owner
    refine ⟨⟨kind, owner, target.kind == .interfaceMethod, target.name, target.descriptor,
      parameterTypes, valueType, i.pc, lineAt i.pc lines⟩, rfl, hasLine_lineAt lines i.pc, ?_⟩
    exact ⟨target, hresolves, howner, htypes, rfl, rfl, beq_iff_eq⟩

/-! ## All instructions -/

/-- The references that instructions make, one instruction after the other. -/
def referencesOf (pool : ConstantPool) (lines : List LineNumber) :
    List PlacedInstruction → Except Fault (List MemberReference)
  | [] => .ok []
  | i :: others => do
    let here ← referenceAt pool lines i.pc i.opcode i.operands
    let behind ← referencesOf pool lines others
    return here.toList ++ behind

section Scan

variable {pool : ConstantPool} {lines : List LineNumber} {pc : Nat} {code : Bytes}
  {instructions : List PlacedInstruction} {references : List MemberReference}

/-- The scan follows the instructions that a code body splits into. -/
theorem scanFrom_of_splits (h : Splits pc code instructions) :
    scanFrom pool lines pc code = referencesOf pool lines instructions := by
  induction h with
  | nil pc => rw [scanFrom, referencesOf]
  | cons hshaped _ ih => rw [scanFrom_cons_eq (operandLength_eq_ok_iff.2 hshaped), ih, referencesOf]

/-- A code body that is scanned to its end splits into instructions. -/
theorem splits_of_scanFrom (h : scanFrom pool lines pc code = .ok references) :
    ∃ instructions, Splits pc code instructions := by
  fun_induction scanFrom pool lines pc code generalizing references with
  | case1 pc => exact ⟨[], .nil pc⟩
  | case2 pc opcode following ih =>
    obtain ⟨length, hlength, h⟩ := bind_eq_ok_iff.1 h
    split at h
    · cases h
    · rename_i operands rest hsplit
      obtain ⟨here, -, h⟩ := bind_eq_ok_iff.1 h
      obtain ⟨others, hothers, -⟩ := bind_eq_ok_iff.1 h
      obtain ⟨behind, hbehind⟩ := ih length operands rest hsplit hothers
      -- the operands are the bytes that the length asks for
      obtain ⟨rfl, rfl⟩ := splitExactly_eq_some_iff.1 hsplit
      exact ⟨⟨pc, opcode, operands⟩ :: behind, .cons (operandLength_eq_ok_iff.1 hlength) hbehind⟩

theorem Splits.shaped (h : Splits pc code instructions) :
    ∀ i ∈ instructions, Shaped i.pc i.opcode i.operands := by
  induction h with
  | nil pc => exact fun i hi => absurd hi List.not_mem_nil
  | cons hshaped _ ih => exact List.forall_mem_cons.2 ⟨hshaped, ih⟩

/-- One reference is recorded for each instruction that refers to a member, in their order. -/
theorem referencesOf_eq_ok_iff
    (hshaped : ∀ i ∈ instructions, Shaped i.pc i.opcode i.operands) :
    referencesOf pool lines instructions = .ok references ↔
      List.Forall₂ (Refers pool lines) (instructions.filter PlacedInstruction.isReference)
        references := by
  induction instructions generalizing references with
  | nil =>
    rw [List.filter_nil, List.forall₂_nil_left_iff]
    constructor
    · intro h
      cases h
      rfl
    · rintro rfl
      rfl
  | cons i others ih =>
    obtain ⟨hfirst, hothers⟩ := List.forall_mem_cons.1 hshaped
    cases hreference : i.isReference with
    | false =>
      rw [referencesOf, referenceAt_of_not_isReference hreference, List.filter_cons_of_neg (by
        rw [hreference]
        exact Bool.false_ne_true), ← ih hothers]
      show (referencesOf pool lines others >>= fun behind => pure behind) = _ ↔ _
      rw [bind_pure]
    | true =>
      rw [referencesOf, List.filter_cons_of_pos hreference, List.forall₂_cons_left_iff]
      constructor
      · intro h
        obtain ⟨here, hhere, h⟩ := bind_eq_ok_iff.1 h
        obtain ⟨behind, hbehind, h⟩ := bind_eq_ok_iff.1 h
        obtain ⟨r, rfl, hr⟩ := (referenceAt_eq_ok_iff hfirst hreference).1 hhere
        cases h
        exact ⟨r, behind, hr, (ih hothers).1 hbehind, rfl⟩
      · rintro ⟨r, behind, hr, hbehind, rfl⟩
        have hhere := (referenceAt_eq_ok_iff hfirst hreference).2 ⟨r, rfl, hr⟩
        exact bind_eq_ok_iff.2 ⟨some r, hhere,
          bind_eq_ok_iff.2 ⟨behind, (ih hothers).2 hbehind, rfl⟩⟩

/-- Of a code body that splits into instructions, the scan returns their references and no
others. -/
theorem scanFrom_eq_ok_iff (h : Splits pc code instructions) :
    scanFrom pool lines pc code = .ok references ↔
      List.Forall₂ (Refers pool lines) (instructions.filter PlacedInstruction.isReference)
        references := by
  rw [scanFrom_of_splits h, referencesOf_eq_ok_iff h.shaped]

theorem exists_forall₂_iff {α β : Type} {R : α → β → Prop} {l : List α} :
    (∃ l', List.Forall₂ R l l') ↔ ∀ a ∈ l, ∃ b, R a b := by
  induction l with
  | nil => exact ⟨fun _ a ha => absurd ha List.not_mem_nil, fun _ => ⟨[], .nil⟩⟩
  | cons a l ih =>
    rw [List.forall_mem_cons, ← ih]
    constructor
    · rintro ⟨l', h⟩
      obtain ⟨b, others, hb, hothers, rfl⟩ := List.forall₂_cons_left_iff.1 h
      exact ⟨⟨b, hb⟩, others, hothers⟩
    · rintro ⟨⟨b, hb⟩, others, hothers⟩
      exact ⟨b :: others, .cons hb hothers⟩

/-- A list of records exists exactly if each instruction that refers to a member resolves. -/
theorem exists_forall₂_refers_iff :
    (∃ references, List.Forall₂ (Refers pool lines)
        (instructions.filter PlacedInstruction.isReference) references) ↔
      ∀ i ∈ instructions, i.isReference = true → ∃ kind target, Resolves pool i kind target := by
  rw [exists_forall₂_iff]
  constructor
  · intro h i hi hreference
    exact exists_refers_iff.1 (h i (List.mem_filter.2 ⟨hi, hreference⟩))
  · intro h i hi
    obtain ⟨hi, hreference⟩ := List.mem_filter.1 hi
    exact exists_refers_iff.2 (h i hi hreference)

/-- The scan succeeds exactly if the code body splits into instructions and each of them that refers
to a member resolves. -/
theorem exists_scanFrom_iff :
    (∃ references, scanFrom pool lines pc code = .ok references) ↔
      ∃ instructions, Splits pc code instructions ∧
        ∀ i ∈ instructions, i.isReference = true → ∃ kind target, Resolves pool i kind target := by
  constructor
  · rintro ⟨references, h⟩
    obtain ⟨instructions, hsplits⟩ := splits_of_scanFrom h
    exact ⟨instructions, hsplits,
      exists_forall₂_refers_iff.1 ⟨references, (scanFrom_eq_ok_iff hsplits).1 h⟩⟩
  · rintro ⟨instructions, hsplits, hresolve⟩
    obtain ⟨references, h⟩ := exists_forall₂_refers_iff.2 hresolve
    exact ⟨references, (scanFrom_eq_ok_iff hsplits).2 h⟩

end Scan

end TypeAtlas.ClassFile
