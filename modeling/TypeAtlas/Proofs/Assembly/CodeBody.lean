import TypeAtlas.Proofs.Assembly.Attributes
import TypeAtlas.Proofs.Assembly.Fits
import TypeAtlas.Proofs.ClassFile.Scan

/-!
# Code survives writing

The bytes of an instruction are passed over by the scan, which finds the access that the
instruction is (`ensures_writeInstruction`). By induction on the instructions, with the line table
split into the entries already met and those still to come, the scan of a whole body finds the
references that the description makes (`ensures_writeInstructions`); the body with its line table is
then read back as it was asked for (`ensures_writeCode`).
-/

set_option autoImplicit false

namespace TypeAtlas.Assembly

open ClassFile (ConstantPool LineNumber PoolIndex Reader Reads ReferenceKind lineAt
  memberReference operandLength readCode referenceAt scanFrom switchPadding)
open PoolBuilder

variable {q : PoolBuilder}

/-! ## Accesses -/

/-- What follows the index of an access: for a call of an interface, a count and a zero. -/
def Access.trailer (a : Access) : Bytes :=
  match a.kind with
  | .invokeInterface => [1, 0]
  | _ => []

theorem write_of_access {i : Instruction} {a : Access} (h : i.access? = some a) (pc : Nat) :
    i.write pc =
      (fun call => call ++ a.trailer) <$> writeReference a.kind.opcode a.sort a.target := by
  cases i <;> cases h
  case invokeInterface => rfl
  all_goals
    have hnil : (fun call : Bytes => call ++ []) = id := funext List.append_nil
    show writeReference _ _ _ = (fun call => call ++ []) <$> writeReference _ _ _
    rw [hnil, id_map]
    rfl

theorem length_trailer {i : Instruction} {a : Access} (h : i.access? = some a) (pc : Nat) :
    3 + a.trailer.length = i.size pc := by
  cases i <;> cases h <;> rfl

theorem lineEntry_of_access {i : Instruction} {a : Access} (h : i.access? = some a) (pc : Nat) :
    i.lineEntry pc = [] := by
  cases i <;> cases h <;> rfl

theorem isFieldAccess_of_access {i : Instruction} {a : Access} (h : i.access? = some a) :
    ((a.sort == .field) != a.kind.isFieldAccess) = false := by
  cases i <;> cases h <;> rfl

theorem operandLength_access (a : Access) (pc : Nat) (bytes : Bytes) :
    operandLength pc a.kind.opcode bytes = .ok (2 + a.trailer.length) := by
  unfold Access.trailer
  cases a.kind <;> rfl

theorem eq_ok_valueOr {α : Type} {result : Except Fault α} (h : result.isOk = true) (other : α) :
    result = .ok (valueOr other result) := by
  cases result with
  | ok value => rfl
  | error fault => cases h

theorem isOk_map {α β : Type} (f : α → β) (result : Except Fault α) :
    (result.map f).isOk = result.isOk := by
  cases result <;> rfl

theorem signatureTypes_of_fits {a : Access} (h : a.Fits) :
    (ClassFile.signatureTypes a.sort a.target.descriptor).isOk = true := by
  have hdescriptor := h.descriptor
  unfold ClassFile.signatureTypes
  cases hsort : a.sort with
  | field =>
    rw [hsort] at hdescriptor
    exact (isOk_map _ _).trans hdescriptor
  | method =>
    rw [hsort] at hdescriptor
    exact (isOk_map _ _).trans hdescriptor
  | interfaceMethod =>
    rw [hsort] at hdescriptor
    exact (isOk_map _ _).trans hdescriptor

theorem typeNameOfClassConstant_of_fits {a : Access} (h : a.Fits) :
    (typeNameOfClassConstant a.target.owner).isOk = true := by
  unfold typeNameOfClassConstant
  split
  · rename_i rest howner
    exact (isOk_map _ _).trans (h.owner (by rw [howner]; rfl))
  · rfl

/-- The reference that an access makes is found behind its index. -/
theorem memberReference_of_access {pool : ConstantPool} {i : Instruction} {a : Access}
    (hi : i.access? = some a) (h : a.Fits) {index : PoolIndex}
    (hindex : pool.getMemberRef index =
      .ok ⟨a.sort, Text.internalName a.target.owner, a.target.name, a.target.descriptor⟩)
    (lines : List LineNumber) (pc : Nat) :
    memberReference pool lines pc a.kind index = .ok (a.reference pc (lineAt pc lines)) := by
  have htypes := eq_ok_valueOr (signatureTypes_of_fits h) ([], "")
  have howner := eq_ok_valueOr (typeNameOfClassConstant_of_fits h) a.target.owner
  unfold memberReference
  rw [hindex]
  show (if ((a.sort == .field) != a.kind.isFieldAccess) = true then _ else _) = _
  rw [isFieldAccess_of_access hi]
  show (ClassFile.signatureTypes a.sort a.target.descriptor >>= fun _ => _) = _
  rw [htypes]
  show (typeNameOfClassConstant (Text.internalName a.target.owner) >>= fun _ => _) = _
  rw [typeNameOfClassConstant_internalName, howner]
  rfl

/-! ## Switches -/

theorem length_paddingAt (pc : Nat) : (paddingAt pc).length = switchPadding pc :=
  List.length_replicate

theorem operandLength_tableSwitch {low high : Int32} (h : low ≤ high) (pc : Nat) (bytes : Bytes) :
    operandLength pc 0xaa (paddingAt pc ++ word32 0 ++ word32 low.toUInt32 ++
        word32 high.toUInt32 ++ bytes) =
      .ok (switchPadding pc + 12 + (high.toInt - low.toInt + 1).toNat * 4) := by
  have hfront : (paddingAt pc ++ word32 0).length = switchPadding pc + 4 := by
    rw [List.length_append, length_paddingAt, length_word32]
  have hfront' : (paddingAt pc ++ word32 0 ++ word32 low.toUInt32).length =
      switchPadding pc + 8 := by
    rw [List.length_append, hfront, length_word32]
  have hlow : ClassFile.signedWordAt (switchPadding pc + 4) (paddingAt pc ++ word32 0 ++
      word32 low.toUInt32 ++ word32 high.toUInt32 ++ bytes) = .ok low.toInt := by
    rw [← hfront, List.append_assoc, List.append_assoc]
    exact ClassFile.signedWordAt_append _ _ _
  have hhigh : ClassFile.signedWordAt (switchPadding pc + 8) (paddingAt pc ++ word32 0 ++
      word32 low.toUInt32 ++ word32 high.toUInt32 ++ bytes) = .ok high.toInt := by
    rw [← hfront', List.append_assoc _ (word32 high.toUInt32) bytes]
    exact ClassFile.signedWordAt_append _ _ _
  show (ClassFile.signedWordAt (switchPadding pc + 4) _ >>= fun low =>
    ClassFile.signedWordAt (switchPadding pc + 8) _ >>= fun high => _) = _
  rw [hlow, hhigh]
  exact if_neg (Int.not_lt.2 (Int32.le_iff_toInt_le.1 h))

theorem operandLength_lookupSwitch {pairs : UInt32} (h : pairs.toNat < 2147483648) (pc : Nat)
    (bytes : Bytes) :
    operandLength pc 0xab (paddingAt pc ++ word32 0 ++ word32 pairs ++ bytes) =
      .ok (switchPadding pc + 8 + pairs.toNat * 8) := by
  have hfront : (paddingAt pc ++ word32 0).length = switchPadding pc + 4 := by
    rw [List.length_append, length_paddingAt, length_word32]
  have hvalue : pairs.toInt32.toInt = pairs.toNat :=
    BitVec.toInt_eq_toNat_of_lt (by show 2 * pairs.toNat < 2 ^ 32; omega)
  have hpairs : ClassFile.signedWordAt (switchPadding pc + 4) (paddingAt pc ++ word32 0 ++
      word32 pairs ++ bytes) = .ok (pairs.toNat : Int) := by
    rw [← hfront, List.append_assoc, ClassFile.signedWordAt_append, hvalue]
  show (ClassFile.signedWordAt (switchPadding pc + 4) _ >>= fun pairs => _) = _
  rw [hpairs]
  show (if (pairs.toNat : Int) < 0 then ClassFile.malformedCode else _) = _
  rw [if_neg (Int.not_lt.2 (Int.natCast_nonneg _))]
  rfl

theorem length_tableEntries (n : Nat) :
    (List.replicate n (word32 0)).flatten.length = n * 4 := by
  rw [List.length_flatten, List.map_replicate, List.sum_replicate_nat, length_word32]

theorem length_lookupEntries (n : Nat) :
    ((List.range n).flatMap fun key => word32 (UInt32.ofNat key) ++ word32 0).length = n * 8 := by
  rw [List.length_flatMap]
  simp only [List.length_append, length_word32, List.map_const', List.sum_replicate_nat,
    List.length_range]

/-! ## Instructions -/

/-- The scan passes over bytes at `pc` and finds an access there, or none. -/
def PassedOver (pool : ConstantPool) (pc : Nat) (bytes : Bytes) (access : Option Access) : Prop :=
  ∀ (lines : List LineNumber) (rest : Bytes) (others : List ClassFile.MemberReference),
    scanFrom pool lines (pc + bytes.length) rest = .ok others →
      scanFrom pool lines pc (bytes ++ rest) =
        .ok ((access.map fun a => a.reference pc (lineAt pc lines)).toList ++ others)

theorem passedOver_cons {pool : ConstantPool} {pc : Nat} {opcode : UInt8} {operands : Bytes}
    {access : Option Access}
    (hlength : ∀ rest, operandLength pc opcode (operands ++ rest) = .ok operands.length)
    (href : ∀ lines, referenceAt pool lines pc opcode operands =
      .ok (access.map fun a => a.reference pc (lineAt pc lines))) :
    PassedOver pool pc (opcode :: operands) access := by
  intro lines rest others hothers
  rw [List.length_cons, Nat.add_comm operands.length, ← Nat.add_assoc] at hothers
  exact ClassFile.scanFrom_cons (hlength rest) (href lines) hothers

/-- An instruction that is no access is only passed over. -/
theorem passedOver_plain {pool : ConstantPool} {pc : Nat} {opcode : UInt8} {operands : Bytes}
    (hlength : ∀ rest, operandLength pc opcode (operands ++ rest) = .ok operands.length)
    (hopcode : ReferenceKind.ofOpcode? opcode = none) :
    PassedOver pool pc (opcode :: operands) none := by
  apply passedOver_cons hlength
  intro lines
  rw [referenceAt, hopcode]
  rfl

/-- The number of bytes of an instruction does not depend on the pool. -/
theorem length_write (pc : Nat) (i : Instruction) (p : PoolBuilder) :
    ((i.write pc) p).1.length = i.size pc := by
  cases i with
  | line number => rfl
  | raw bytes => rfl
  | tableSwitch low high =>
    show (0xaa :: (paddingAt pc ++ word32 0 ++ word32 low.toUInt32 ++ word32 high.toUInt32 ++
      (List.replicate (high.toInt - low.toInt + 1).toNat (word32 0)).flatten)).length = _
    simp only [List.length_cons, List.length_append, length_paddingAt, length_word32,
      length_tableEntries, Instruction.size]
    omega
  | lookupSwitch pairs =>
    show (0xab :: (paddingAt pc ++ word32 0 ++ word32 pairs ++
      (List.range pairs.toNat).flatMap fun key => word32 (UInt32.ofNat key) ++ word32 0)).length = _
    simp only [List.length_cons, List.length_append, length_paddingAt, length_word32,
      length_lookupEntries, Instruction.size]
    omega
  | _ => rfl

/-- An access is passed over and found. -/
theorem ensures_writeAccess (hq : q.Fits) {i : Instruction} {a : Access}
    (hi : i.access? = some a) (h : a.Fits) (pc : Nat) :
    Ensures q (i.write pc) fun bytes => PassedOver q.content pc bytes (some a) := by
  rw [write_of_access hi]
  refine Ensures.map (P := fun call => ∃ index, call = a.kind.opcode :: word16 index ∧
    q.content.getMemberRef index = .ok ⟨a.sort, Text.internalName a.target.owner, a.target.name,
      a.target.descriptor⟩) ?_ ?_
  · refine (ensures_memberRef hq a.sort a.target.owner a.target.name a.target.descriptor).bind
      fun index => Ensures.pure fun hindex => ⟨index, rfl, hindex⟩
  · rintro call ⟨index, rfl, hindex⟩
    have hlength : (word16 index ++ a.trailer).length = 2 + a.trailer.length := by
      rw [List.length_append, length_word16]
    rw [List.cons_append]
    refine passedOver_cons (fun rest => ?_) fun lines => ?_
    · rw [hlength, operandLength_access]
    · have htake : (word16 index ++ a.trailer).take 2 = word16 index :=
        List.take_left' (length_word16 index)
      rw [referenceAt, ClassFile.ofOpcode?_opcode]
      show some <$> memberReference _ _ _ _ _ = _
      rw [htake, ClassFile.ofBigEndian_word16, memberReference_of_access hi h hindex]
      rfl

/-- An instruction is passed over, and found if it is an access. -/
theorem ensures_writeInstruction (hq : q.Fits) {i : Instruction} {pc : Nat} (h : i.Fits)
    (hsize : i.size pc ≤ 65535) :
    Ensures q (i.write pc) fun bytes => PassedOver q.content pc bytes i.access? := by
  cases i with
  | line number =>
    apply Ensures.pure
    intro lines rest others hothers
    exact hothers
  | raw bytes => exact absurd h id
  | tableSwitch low high =>
    refine Ensures.pure (passedOver_plain (fun rest => ?_) rfl)
    rw [List.append_assoc, operandLength_tableSwitch h]
    simp only [List.length_append, length_paddingAt, length_word32, length_tableEntries]
  | lookupSwitch pairs =>
    have hpairs : pairs.toNat < 2147483648 := by
      rw [Instruction.size] at hsize
      omega
    refine Ensures.pure (passedOver_plain (fun rest => ?_) rfl)
    rw [List.append_assoc, operandLength_lookupSwitch hpairs]
    simp only [List.length_append, length_paddingAt, length_word32, length_lookupEntries]
  | new className =>
    refine (ensures_classRef hq _).bind fun index => Ensures.pure fun _ => ?_
    exact passedOver_plain (fun rest => rfl) rfl
  | «return» => exact Ensures.pure (passedOver_plain (fun rest => rfl) rfl)
  | _ => exact ensures_writeAccess hq rfl (h _ rfl) pc

/-! ## Bodies -/

theorem writeInstructions_known (instructions : List Instruction) (pc : Nat) (p : PoolBuilder) :
    ((writeInstructions pc instructions) p).1.1.length = sizeFrom pc instructions ∧
      ((writeInstructions pc instructions) p).1.2 = linesFrom pc instructions := by
  induction instructions generalizing pc p with
  | nil => exact ⟨rfl, rfl⟩
  | cons first rest ih =>
    have hlength := length_write pc first p
    obtain ⟨hsize, hlines⟩ := ih (pc + first.size pc) (first.write pc p).2
    rw [← hlength] at hsize hlines
    constructor
    · show ((first.write pc p).1 ++ (writeInstructions (pc + (first.write pc p).1.length) rest
        (first.write pc p).2).1.1).length = first.size pc + sizeFrom (pc + first.size pc) rest
      rw [List.length_append, hsize, hlength]
    · show first.lineEntry pc ++ (writeInstructions (pc + (first.write pc p).1.length) rest
        (first.write pc p).2).1.2 = first.lineEntry pc ++ linesFrom (pc + first.size pc) rest
      rw [hlines, hlength]

theorem startPc_lineEntry {pc : Nat} (hpc : pc ≤ 65535) {i : Instruction} {e : LineNumber}
    (h : e ∈ i.lineEntry pc) : e.startPc.toNat = pc := by
  cases i <;> cases h
  case line.head => exact toNat_ofNat_of_le hpc
  case line.tail h => cases h

/-- The line table of the instructions from `pc` on starts no line before `pc`. -/
theorem le_startPc_of_mem_linesFrom {instructions : List Instruction} {pc : Nat}
    (hpc : pc + sizeFrom pc instructions ≤ 65535) {e : LineNumber}
    (h : e ∈ linesFrom pc instructions) : pc ≤ e.startPc.toNat := by
  induction instructions generalizing pc with
  | nil => cases h
  | cons first rest ih =>
    rw [sizeFrom, ← Nat.add_assoc] at hpc
    rcases List.mem_append.1 h with h | h
    · exact Nat.le_of_eq (startPc_lineEntry (by omega) h).symm
    · exact Nat.le_trans (Nat.le_add_right _ _) (ih hpc h)

/-- The line behind an instruction, when only the entries up to it are known. -/
theorem lineAt_lineEntry {pc : Nat} (hpc : pc ≤ 65535) (i : Instruction)
    {early : List LineNumber} (h : ∀ e ∈ early, e.startPc.toNat ≤ pc) :
    lineAt (pc + i.size pc) (early ++ i.lineEntry pc) = i.lineAfter (lineAt pc early) := by
  cases i with
  | line number =>
    exact ClassFile.lineAt_concat (startPc_lineEntry hpc (i := .line number)
      (List.mem_singleton.2 rfl)) early
  | _ =>
    show lineAt _ (early ++ []) = lineAt pc early
    rw [List.append_nil]
    exact ClassFile.lineAt_of_le h (Nat.le_add_right _ _)

/-- An access is in the line of the entries before it: it marks no line itself, and it takes up
bytes, so that all entries behind it start later. -/
theorem lineAt_access {i : Instruction} {a : Access} (hi : i.access? = some a) {pc : Nat}
    {rest : List Instruction} (hpc : pc + i.size pc + sizeFrom (pc + i.size pc) rest ≤ 65535)
    (early : List LineNumber) :
    lineAt pc (early ++ (i.lineEntry pc ++ linesFrom (pc + i.size pc) rest)) =
      lineAt pc early := by
  rw [lineEntry_of_access hi, List.nil_append]
  refine ClassFile.lineAt_append (fun e he => ?_) early
  have hsize := length_trailer hi pc
  have hstart := le_startPc_of_mem_linesFrom hpc he
  omega

/-- The scan of instructions finds the references that they make. The line table is split at `pc`:
`early` holds the entries of the instructions before. -/
theorem ensures_writeInstructions (hq : q.Fits) {instructions : List Instruction} {pc : Nat}
    (h : ∀ i ∈ instructions, i.Fits) (hpc : pc + sizeFrom pc instructions ≤ 65535) :
    Ensures q (writeInstructions pc instructions) fun r =>
      ∀ early : List LineNumber, (∀ e ∈ early, e.startPc.toNat ≤ pc) →
        scanFrom q.content (early ++ linesFrom pc instructions) pc r.1 =
          .ok (referencesFrom pc (lineAt pc early) instructions) := by
  induction instructions generalizing pc with
  | nil =>
    apply Ensures.pure
    intro early _
    rw [scanFrom]
    rfl
  | cons first rest ih =>
    rw [sizeFrom, ← Nat.add_assoc] at hpc
    have hfirst : Ensures q (first.write pc) fun bytes =>
        PassedOver q.content pc bytes first.access? :=
      ensures_writeInstruction hq (h first List.mem_cons_self) (by omega)
    refine Ensures.bind_known (R := fun bytes => bytes.length = first.size pc)
      (length_write pc first) hfirst fun here hlength => ?_
    -- from here on the place of the next instruction is known
    rw [hlength]
    refine (ih (fun i hi => h i (List.mem_cons_of_mem first hi)) hpc).bind fun r => ?_
    apply Ensures.pure
    intro hrest hhere early hearly
    -- the entry of `first` joins the entries already met
    have hnext : ∀ e ∈ early ++ first.lineEntry pc, e.startPc.toNat ≤ pc + first.size pc := by
      intro e he
      rcases List.mem_append.1 he with he | he
      · exact Nat.le_trans (hearly e he) (Nat.le_add_right _ _)
      · rw [startPc_lineEntry (by omega) he]
        exact Nat.le_add_right _ _
    have hlater := hrest (early ++ first.lineEntry pc) hnext
    rw [List.append_assoc, lineAt_lineEntry (by omega) first hearly, ← hlength] at hlater
    have hscan := hhere _ r.1 _ hlater
    -- `first` is passed over, and its line is that of the entries before it
    rw [linesFrom, referencesFrom, ← hlength, hscan]
    cases haccess : first.access? with
    | none => rfl
    | some a =>
      rw [hlength, Option.map_some, Option.map_some, lineAt_access haccess hpc]

/-! ## The code attribute -/

theorem ensures_writeLineNumber (entry : LineNumber) :
    Ensures q (writeLineNumber entry) fun body =>
      Reads body (do
        let startPc ← Reader.u2
        return (⟨startPc, ← Reader.u2⟩ : LineNumber)) entry ∧ body.length = 4 := by
  refine Ensures.pure ⟨(Reads.u2 _).bind ((Reads.u2 _).bind_nil Reads.pure), ?_⟩
  rw [List.length_append, length_word16, length_word16]

/-- The line table is read back. -/
theorem attributes_lines (hq : q.Fits) {lines : List LineNumber} (h : lines.length ≤ 65535) :
    Attributes q ClassFile.codeAttribute
      (tableAttribute "LineNumberTable" writeLineNumber lines)
      (listed lines lines) := by
  have hname : ClassFile.codeAttribute "LineNumberTable" =
      some (id <$> ClassFile.readLineNumbers) := by
    rw [id_map]
    rfl
  have hsize : 2 + (lines.map fun _ => 4).sum < 4294967296 := by
    rw [List.map_const', List.sum_replicate_nat]
    omega
  have htable := Attributes.table hq (g := id) hname h hsize fun e _ => ensures_writeLineNumber e
  rw [List.map_id] at htable
  exact htable

theorem length_writeAttributes_singleton (name : String) (w : Assembler Bytes) (p : PoolBuilder) :
    ((writeAttributes [named name w]) p).1.length = 8 + (w p).1.length := by
  unfold writeAttributes writeTable
  rw [List.mapM_cons, List.mapM_nil]
  show (count16 1 ++ [Attribute.write ⟨_, (w p).1⟩].flatten).length = _
  rw [List.flatten_singleton, Attribute.write, List.length_append, List.length_append,
    List.length_append, length_count16, length_word16, length_count32]
  show 2 + (2 + 4 + (w p).1.length) = 8 + (w p).1.length
  omega

/-- The attributes of a code body take few bytes. -/
theorem length_lineTable (lines : List LineNumber) (p : PoolBuilder) :
    ((writeAttributes (tableAttribute "LineNumberTable" writeLineNumber lines)) p).1.length ≤
      12 + lines.length * 4 := by
  unfold tableAttribute
  cases lines.isEmpty with
  | true =>
    show (count16 0 ++ [].flatten).length ≤ _
    rw [List.flatten_nil, List.append_nil, length_count16]
    omega
  | false =>
    -- the length of the table is ensured for all pools, so it is known of this one
    have htable := Ensures.result (fun q => ensures_length_writeTable (q := q)
      fun e (_ : e ∈ lines) => (ensures_writeLineNumber e).weaken fun _ => And.right) p
    rw [List.map_const', List.sum_replicate_nat] at htable
    show ((writeAttributes [named _ _]) p).1.length ≤ _
    rw [length_writeAttributes_singleton, htable]
    omega

/-- A code body is read back with the lines and the references that were asked for. -/
theorem ensures_writeCode (hq : q.Fits) {instructions : List Instruction}
    (h : CodeFits instructions) :
    Ensures q (writeCode instructions) fun body =>
      Reads body (readCode q.content) (codeContent instructions) ∧ body.length < 4294967296 := by
  have hsize := h.size
  have hpc : 0 + sizeFrom 0 instructions ≤ 65535 := by omega
  have hinstructions := ensures_writeInstructions hq h.each hpc
  refine Ensures.bind_known
    (R := fun r => r.1.length = sizeFrom 0 instructions ∧ r.2 = linesFrom 0 instructions)
    (writeInstructions_known instructions 0) hinstructions fun r hr => ?_
  obtain ⟨code, lines⟩ := r
  obtain ⟨hcode, rfl⟩ := hr
  refine Ensures.bind_known
    (R := fun table => table.length ≤ 12 + (linesFrom 0 instructions).length * 4)
    (length_lineTable _) ((attributes_lines hq h.lines).ensures_write ?_) fun table htable => ?_
  · exact Nat.le_trans (length_tableAttribute _ _ _) (by decide)
  refine Ensures.pure fun hattributes hscan => ⟨?_, ?_⟩
  · have hreferences : ClassFile.scanReferences q.content (linesFrom 0 instructions) code =
        .ok (referencesFrom 0 0 instructions) :=
      hscan [] fun e he => absurd he List.not_mem_nil
    have hnat : (UInt32.ofNat code.length).toNat = code.length := by
      apply UInt32.toNat_ofNat_of_lt'
      show code.length < 4294967296
      dsimp only at hcode
      omega
    simp only [List.append_assoc]
    refine (Reads.u2 _).bind ((Reads.u2 _).bind ((Reads.u4 _).bind ?_))
    rw [hnat]
    -- no exception handlers are written
    refine (Reads.take _).bind ((Reads.u2 _).bind ?_)
    refine Reads.nil_bind (m := Reader.take 0) (Reads.take []) (hattributes.bind_nil ?_)
    rw [flatten_listed]
    exact Reads.lift_bind hreferences Reads.pure
  · have hlines := h.lines
    dsimp only at hcode
    simp only [List.length_append, length_word16, length_count32]
    omega

end TypeAtlas.Assembly
