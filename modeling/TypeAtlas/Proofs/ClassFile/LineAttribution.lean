import TypeAtlas.Proofs.ClassFile.AttributeOrder

/-!
# Source lines of references

A line table may be in any order, name a place more than once, and be spread over several
attributes. The line of a place can be found by sorting the table once and halving it for each
reference (`lineBefore`). This gives the line of the covering entry (`hasLine_lineBefore`): the sort
keeps the order of entries with the same start (`filter_sortByStart`), so the last entry in front of
the partition point is the last one in the file as well.

The line table decides nothing but the lines of the references (`scanReferences_eq_map`), and it is
what the line tables of a code body say, one after another (`exists_lineTables`).
-/

set_option autoImplicit false

namespace TypeAtlas.ClassFile

/-! ## Partition points -/

/-- The first place from `low` up to `high` where a test fails, found by halving. -/
def bisect (test : Nat → Bool) (low high : Nat) : Nat :=
  if low < high then
    if test ((low + high) / 2) then bisect test ((low + high) / 2 + 1) high
    else bisect test low ((low + high) / 2)
  else low
termination_by high - low

/-- Halving finds the place where a test stops to succeed, if there is one such place. -/
theorem bisect_eq {test : Nat → Bool} {low high point : Nat}
    (hpoint : ∀ index, low ≤ index → index < high → (test index = true ↔ index < point))
    (hlow : low ≤ point) (hhigh : point ≤ high) : bisect test low high = point := by
  fun_induction bisect test low high with
  | case1 low high hlt htest ih =>
    have hmiddle := (hpoint ((low + high) / 2) (by omega) (by omega)).1 htest
    exact ih (fun index hindex => hpoint index (by omega)) hmiddle hhigh
  | case2 low high hlt htest ih =>
    have hmiddle : ¬ (low + high) / 2 < point := fun h =>
      htest ((hpoint ((low + high) / 2) (by omega) (by omega)).2 h)
    exact ih (fun index hindex hlt => hpoint index hindex (by omega)) hlow (Nat.not_lt.1 hmiddle)
  | case3 low high hle => omega

/-- How many entries stand in front of the first one that fails a test, found by halving. -/
def partitionPoint {α : Type} (test : α → Bool) (list : List α) : Nat :=
  bisect (fun index => list[index]?.any test) 0 list.length

/-- The partition point of a list that is divided by the test is the length of its front. -/
theorem partitionPoint_append {α : Type} {test : α → Bool} {front back : List α}
    (hfront : ∀ a ∈ front, test a = true) (hback : ∀ a ∈ back, test a = false) :
    partitionPoint test (front ++ back) = front.length := by
  apply bisect_eq
  · intro index _ hindex
    constructor
    · intro htest
      apply Nat.lt_of_not_le
      intro hle
      rw [List.getElem?_append_right hle, Option.any_eq_true] at htest
      rcases htest with ⟨a, ha, htest⟩
      rw [hback a (List.mem_of_getElem? ha)] at htest
      cases htest
    · intro hlt
      rw [List.getElem?_append_left hlt, List.getElem?_eq_getElem hlt]
      exact hfront _ (List.getElem_mem hlt)
  · exact Nat.zero_le _
  · rw [List.length_append]
    exact Nat.le_add_right _ _

/-! ## Sorted line tables -/

/-- Whether an entry starts no later than another. -/
def LineNumber.startsBy (a b : LineNumber) : Bool := decide (a.startPc ≤ b.startPc)

/-- A line table by the starts of its entries; entries with the same start keep their order. -/
def sortByStart (lines : List LineNumber) : List LineNumber := lines.mergeSort LineNumber.startsBy

/-- The line of a place by a sorted table: that of the last entry in front of those that start
behind the place, or zero if there is none. -/
def lineBefore (sorted : List LineNumber) (pc : Nat) : UInt16 :=
  match partitionPoint (fun entry => decide (entry.startPc.toNat ≤ pc)) sorted with
  | 0 => 0
  | index + 1 =>
    match sorted[index]? with
    | some entry => entry.line
    | none => 0

section Sorted

variable {lines : List LineNumber} {pc : Nat}

theorem mem_sortByStart {e : LineNumber} : e ∈ sortByStart lines ↔ e ∈ lines :=
  (List.mergeSort_perm lines LineNumber.startsBy).mem_iff

theorem startsBy_trans (a b c : LineNumber) (hab : a.startsBy b = true)
    (hbc : b.startsBy c = true) : a.startsBy c = true := by
  simp only [LineNumber.startsBy, decide_eq_true_eq] at hab hbc ⊢
  exact UInt16.le_trans hab hbc

theorem startsBy_total (a b : LineNumber) : (a.startsBy b || b.startsBy a) = true := by
  simp only [LineNumber.startsBy, Bool.or_eq_true, decide_eq_true_eq]
  exact UInt16.le_total a.startPc b.startPc

theorem pairwise_sortByStart (lines : List LineNumber) :
    (sortByStart lines).Pairwise fun a b => a.startPc ≤ b.startPc := by
  have hsorted := List.pairwise_mergeSort startsBy_trans startsBy_total lines
  exact hsorted.imp fun h => of_decide_eq_true h

/-- The sort keeps the entries with a start in their order. -/
theorem filter_sortByStart (start : UInt16) (lines : List LineNumber) :
    (sortByStart lines).filter (·.startPc == start) = lines.filter (·.startPc == start) := by
  have hequal : (lines.filter (·.startPc == start)).Pairwise
      fun a b => a.startsBy b = true := by
    apply List.pairwise_of_forall_mem_list
    intro a ha b hb
    have hstarts := (beq_iff_eq.1 (List.mem_filter.1 ha).2).trans
      (beq_iff_eq.1 (List.mem_filter.1 hb).2).symm
    exact decide_eq_true (UInt16.le_of_eq hstarts)
  have hsub := (List.sublist_mergeSort startsBy_trans startsBy_total hequal
    List.filter_sublist).filter (·.startPc == start)
  simp only [List.filter_filter, Bool.and_self] at hsub
  have hperm := (List.mergeSort_perm lines LineNumber.startsBy).filter (·.startPc == start)
  exact (hsub.eq_of_length hperm.length_eq.symm).symm

/-- A sorted table is divided by a place. -/
theorem exists_sortByStart_eq (lines : List LineNumber) (pc : Nat) :
    ∃ front back, sortByStart lines = front ++ back ∧ (∀ e ∈ front, e.startPc.toNat ≤ pc) ∧
      ∀ e ∈ back, pc < e.startPc.toNat := by
  have hsorted := pairwise_sortByStart lines
  generalize sortByStart lines = sorted at hsorted
  induction sorted with
  | nil => exact ⟨[], [], rfl, List.forall_mem_nil _, List.forall_mem_nil _⟩
  | cons first others ih =>
    rcases List.pairwise_cons.1 hsorted with ⟨hfirst, hothers⟩
    by_cases hle : first.startPc.toNat ≤ pc
    · rcases ih hothers with ⟨front, back, rfl, hfront, hback⟩
      exact ⟨first :: front, back, rfl, List.forall_mem_cons.2 ⟨hle, hfront⟩, hback⟩
    · -- the others start no earlier
      have hlt := Nat.not_le.1 hle
      refine ⟨[], first :: others, rfl, fun e he => absurd he List.not_mem_nil, ?_⟩
      refine List.forall_mem_cons.2 ⟨hlt, fun e he => ?_⟩
      exact Nat.lt_of_lt_of_le hlt (UInt16.le_iff_toNat_le.1 (hfirst e he))

/-- The last of the entries that pass a test has none of them behind it. -/
theorem exists_of_filter_eq_concat {α : Type} {test : α → Bool} {list front : List α} {last : α}
    (h : list.filter test = front ++ [last]) :
    ∃ before after, list = before ++ last :: after ∧ ∀ a ∈ after, test a = false := by
  rcases List.filter_eq_append_iff.1 h with ⟨before, rest, rfl, -, hrest⟩
  rcases List.filter_eq_cons_iff.1 hrest with ⟨skipped, after, rfl, -, -, hafter⟩
  refine ⟨before ++ skipped, after, (List.append_assoc ..).symm, fun a ha => ?_⟩
  exact Bool.eq_false_iff.2 (List.filter_eq_nil_iff.1 hafter a ha)

section Divided

variable {front back : List LineNumber} {last : LineNumber}
  (hsorted : sortByStart lines = (front ++ [last]) ++ back)
  (hback : ∀ e ∈ back, pc < e.startPc.toNat)
include hsorted hback

/-- No entry that starts by the place starts behind the last one of the front. -/
theorem startPc_le_of_sortByStart :
    ∀ e ∈ lines, e.startPc.toNat ≤ pc → e.startPc ≤ last.startPc := by
  intro e he hpc
  have hpairs := pairwise_sortByStart lines
  rw [hsorted] at hpairs
  rw [← mem_sortByStart, hsorted] at he
  rcases List.mem_append.1 he with he | he
  · rcases List.mem_append.1 he with he | he
    · exact (List.pairwise_append.1 (List.pairwise_append.1 hpairs).1).2.2 e he last
        (List.mem_singleton.2 rfl)
    · rw [List.mem_singleton.1 he]
      exact UInt16.le_refl _
  · exact absurd hpc (Nat.not_le.2 (hback e he))

/-- The last entry of the front covers the place in the unsorted table. -/
theorem covers_of_sortByStart (hfront : ∀ e ∈ front ++ [last], e.startPc.toNat ≤ pc) :
    Covers lines pc last := by
  have hlast : last.startPc.toNat ≤ pc :=
    hfront last (List.mem_append_right front (List.mem_singleton.2 rfl))
  have hle := startPc_le_of_sortByStart hsorted hback
  -- of the entries with this start it is the last in the sorted table, and so in the other one
  have hsame : lines.filter (·.startPc == last.startPc) =
      front.filter (·.startPc == last.startPc) ++ [last] := by
    have hnone : back.filter (·.startPc == last.startPc) = [] := by
      rw [List.filter_eq_nil_iff]
      intro e he heq
      rw [beq_iff_eq] at heq
      exact absurd hlast (Nat.not_le.2 (heq ▸ hback e he))
    rw [← filter_sortByStart, hsorted, List.filter_append, hnone, List.append_nil,
      List.filter_append]
    simp only [List.filter_cons, beq_self_eq_true, if_true, List.filter_nil]
  rcases exists_of_filter_eq_concat hsame with ⟨before, after, rfl, hafter⟩
  refine ⟨hlast, before, after, rfl, fun e he => hle e (List.mem_append_left _ he), ?_⟩
  intro e he hpc
  have hmem : e ∈ before ++ last :: after :=
    List.mem_append_right before (List.mem_cons_of_mem last he)
  exact UInt16.lt_of_le_of_ne (hle e hmem hpc) (beq_eq_false_iff_ne.1 (hafter e he))

end Divided

/-- Sorting and halving finds the line of the covering entry. -/
theorem hasLine_lineBefore (lines : List LineNumber) (pc : Nat) :
    HasLine lines pc (lineBefore (sortByStart lines) pc) := by
  rcases exists_sortByStart_eq lines pc with ⟨front, back, hsorted, hfront, hback⟩
  have hpoint : partitionPoint (fun entry => decide (entry.startPc.toNat ≤ pc)) (front ++ back) =
      front.length :=
    partitionPoint_append (fun e he => decide_eq_true (hfront e he)) fun e he =>
      decide_eq_false (Nat.not_le.2 (hback e he))
  rcases List.eq_nil_or_concat' front with rfl | ⟨front, last, rfl⟩
  · right
    constructor
    · intro e he
      rw [← mem_sortByStart, hsorted] at he
      exact hback e he
    · rw [hsorted, lineBefore, hpoint]
      rfl
  · left
    refine ⟨last, covers_of_sortByStart hsorted hback hfront, ?_⟩
    rw [hsorted, lineBefore, hpoint, List.length_append, List.length_singleton]
    simp only [List.append_assoc, List.singleton_append, List.getElem?_append_right (Nat.le_refl _),
      Nat.sub_self, List.getElem?_cons_zero]

end Sorted

/-! ## References -/

/-- A reference with the line that is looked up for its place. -/
def MemberReference.withLine (line : Nat → UInt16) (r : MemberReference) : MemberReference :=
  { r with line := line r.pc }

section References

variable (pool : ConstantPool) (lines : List LineNumber)

theorem memberReference_eq_map (pc : Nat) (kind : ReferenceKind) (index : PoolIndex) :
    memberReference pool lines pc kind index =
      (memberReference pool [] pc kind index).map (.withLine (lineAt · lines)) := by
  simp only [memberReference]
  cases pool.getMemberRef index with
  | error fault => rfl
  | ok target =>
    simp only [bind, Except.bind]
    split
    · rfl
    · cases signatureTypes target.kind target.descriptor with
      | error fault => rfl
      | ok types =>
        cases typeNameOfClassConstant target.owner with
        | error fault => rfl
        | ok owner => rfl

theorem referenceAt_eq_map (pc : Nat) (opcode : UInt8) (operands : Bytes) :
    referenceAt pool lines pc opcode operands =
      (referenceAt pool [] pc opcode operands).map (Option.map (.withLine (lineAt · lines))) := by
  simp only [referenceAt]
  cases ReferenceKind.ofOpcode? opcode with
  | none => rfl
  | some kind =>
    simp only [memberReference_eq_map pool lines]
    cases memberReference pool [] pc kind (UInt16.ofNat (ofBigEndian (operands.take 2))) with
    | error fault => rfl
    | ok r => rfl

theorem scanFrom_eq_map (pc : Nat) (code : Bytes) :
    scanFrom pool lines pc code =
      (scanFrom pool [] pc code).map (List.map (.withLine (lineAt · lines))) := by
  -- the scan goes on behind the operands, so the induction is on the length of the code
  induction hsize : code.length using Nat.strongRecOn generalizing pc code with
  | _ size ih =>
    cases code with
    | nil =>
      rw [scanFrom, scanFrom]
      rfl
    | cons opcode following =>
      rw [scanFrom_eq, scanFrom_eq]
      cases operandLength pc opcode following with
      | error fault => rfl
      | ok length =>
        simp only [bind, Except.bind]
        have hshorter : (following.drop length).length < size := by
          rw [← hsize, List.length_drop, List.length_cons]
          omega
        split
        · rw [referenceAt_eq_map, ih _ hshorter (pc + 1 + length) _ rfl]
          cases referenceAt pool [] pc opcode (following.take length) with
          | error fault => rfl
          | ok here =>
            cases scanFrom pool [] (pc + 1 + length) (following.drop length) with
            | error fault => rfl
            | ok others =>
              cases here with
              | none => rfl
              | some r => rfl
        · rfl

/-- The line table decides the lines of the references and nothing else. -/
theorem scanReferences_eq_map (code : Bytes) :
    scanReferences pool lines code =
      (scanReferences pool [] code).map (List.map (.withLine (lineAt · lines))) :=
  scanFrom_eq_map pool lines 0 code

end References

/-- Every reference has the line of its place. -/
theorem hasLine_of_scanReferences {pool : ConstantPool} {lines : List LineNumber} {code : Bytes}
    {references : List MemberReference} (h : scanReferences pool lines code = .ok references) :
    ∀ r ∈ references, HasLine lines r.pc r.line := by
  rw [scanReferences_eq_map] at h
  rcases map_eq_ok_iff.1 h with ⟨found, -, rfl⟩
  intro r hr
  rcases List.mem_map.1 hr with ⟨r, -, rfl⟩
  exact hasLine_lineAt lines r.pc

/-! ## The line tables of a code body -/

/-- An entry of a line table as it is written. -/
def LineNumber.write (entry : LineNumber) : Bytes := word16 entry.startPc ++ word16 entry.line

/-- A line table as it is written. -/
def lineTableBytes (entries : List LineNumber) : Bytes :=
  count16 entries.length ++ entries.flatMap LineNumber.write

/-- An accepted line table is one that was written. -/
theorem readLineNumbers_eq_ok {c c' : Cursor} {entries : List LineNumber}
    (h : readLineNumbers c = .ok (entries, c')) : c.bytes = lineTableBytes entries ++ c'.bytes := by
  have hitem : ∀ (c c' : Cursor) (entry : LineNumber),
      (do let startPc ← Reader.u2; return (⟨startPc, ← Reader.u2⟩ : LineNumber) : Reader _) c =
        .ok (entry, c') → ∃ written, written = entry ∧
          c.bytes = LineNumber.write written ++ c'.bytes := by
    intro c c' entry hrun
    rcases bind_eq_ok_iff.1 hrun with ⟨⟨startPc, c₁⟩, hstart, hrun⟩
    rcases bind_eq_ok_iff.1 hrun with ⟨⟨line, c₂⟩, hline, hrun⟩
    cases hrun
    refine ⟨⟨startPc, line⟩, rfl, ?_⟩
    rw [u2_eq_ok hstart, LineNumber.write, List.append_assoc]
    exact congrArg (word16 startPc ++ ·) (u2_eq_ok hline)
  rcases exists_of_table hitem h with ⟨written, hsame, -, hbytes⟩
  rw [List.forall₂_eq_eq_eq] at hsame
  rw [← hsame]
  exact hbytes

/-- What a line table attribute says is what is written in it. -/
theorem body_of_says {pool : ConstantPool} {a : Assembly.Attribute} {entries : List LineNumber}
    (hname : named pool "LineNumberTable" a = true)
    (h : Says pool codeAttribute a (some entries)) : a.body = lineTableBytes entries := by
  have hrecognised : codeAttribute "LineNumberTable" = some readLineNumbers := rfl
  rw [Says, attributeBody_of_recognised (named_iff.1 hname) hrecognised] at h
  rcases map_eq_ok_iff.1 h with ⟨value, hvalue, hentries⟩
  cases hentries
  rcases bind_eq_ok_iff.1 hvalue with ⟨⟨result, rest⟩, hrun, hvalue⟩
  rcases bind_eq_ok_iff.1 hvalue with ⟨_, hend, hvalue⟩
  cases hvalue
  have hempty : rest.bytes = [] := by
    simp only [Reader.expectEnd] at hend
    split at hend
    · assumption
    · cases hend
  rw [← List.append_nil (lineTableBytes entries), ← hempty]
  exact readLineNumbers_eq_ok hrun

/-- A code body as it stands in front of a rest: its instructions, its attributes, and the line
tables among them. The line table of the code is what the tables say, one after another. -/
structure CodeWritten (pool : ConstantPool) (body : Code) (bytes rest code : Bytes)
    (attributes : List Assembly.Attribute) (tables : List (List LineNumber)) : Prop where
  bytes_eq : ∃ (length : UInt32) (handlers : UInt16) (handlerBytes : Bytes),
    length.toNat = code.length ∧ handlerBytes.length = handlers.toNat * 8 ∧
    bytes = word16 body.maxStack ++ (word16 body.maxLocals ++ (word32 length ++ (code ++
      (word16 handlers ++ (handlerBytes ++ (tableBytes attributes ++ rest))))))
  tables_written : List.Forall₂ (fun a entries => a.body = lineTableBytes entries)
    (attributes.filter (named pool "LineNumberTable")) tables
  lines_eq : body.lines = tables.flatten
  scanned : scanReferences pool body.lines code = .ok body.references

/-- The lines of a code body are those of its line tables, in their order. -/
theorem exists_lineTables {pool : ConstantPool} {c c' : Cursor} {lines : List LineNumber}
    (h : AttributePlace.ofCode.read pool c = .ok (lines, c')) :
    ∃ attributes tables, c.bytes = tableBytes attributes ++ c'.bytes ∧
      List.Forall₂ (fun (a : Assembly.Attribute) entries => a.body = lineTableBytes entries)
        (attributes.filter (named pool "LineNumberTable")) tables ∧ lines = tables.flatten := by
  rcases map_run_eq_ok_iff.1 h with ⟨tables, hrun, hlines⟩
  rcases exists_of_attributeTable readByName_code.anchored hrun with
    ⟨attributes, entries, -, hsaid, rfl, hbytes⟩
  refine ⟨attributes, entries.filterMap id, hbytes, ?_, hlines.symm⟩
  have hrecognised : codeAttribute "LineNumberTable" ≠ none := Option.some_ne_none readLineNumbers
  have hnamed := forall₂_says_named readByName_code hrecognised hsaid
  simp only [beq_self_eq_true, List.filter_true, List.forall₂_map_right_iff] at hnamed
  have hall : ∀ a ∈ attributes.filter (named pool "LineNumberTable"),
      named pool "LineNumberTable" a = true := fun a ha => (List.mem_filter.1 ha).2
  exact ((List.forall₂_and_left _ _).2 ⟨hall, hnamed⟩).imp fun a entries h => body_of_says h.1 h.2

theorem exists_codeWritten {pool : ConstantPool} {c c' : Cursor} {body : Code}
    (h : readCode pool c = .ok (body, c')) :
    ∃ code attributes tables, CodeWritten pool body c.bytes c'.bytes code attributes tables := by
  rw [readCode_eq] at h
  rcases bind_eq_ok_iff.1 h with ⟨⟨maxStack, c₁⟩, hstack, h⟩
  rcases bind_eq_ok_iff.1 h with ⟨⟨maxLocals, c₂⟩, hlocals, h⟩
  rcases bind_eq_ok_iff.1 h with ⟨⟨length, c₃⟩, hlength, h⟩
  rcases bind_eq_ok_iff.1 h with ⟨⟨code, c₄⟩, hcode, h⟩
  rcases bind_eq_ok_iff.1 h with ⟨⟨handlers, c₅⟩, hhandlers, h⟩
  rcases bind_eq_ok_iff.1 h with ⟨⟨handlerBytes, c₆⟩, hskipped, h⟩
  rcases bind_eq_ok_iff.1 h with ⟨⟨lines, c₇⟩, hlines, h⟩
  rcases bind_eq_ok_iff.1 h with ⟨⟨references, c₈⟩, hscan, h⟩
  cases h
  rcases lift_eq_ok_iff.1 hscan with ⟨hreferences, rfl⟩
  rcases take_eq_ok hcode with ⟨hcodeBytes, hcodeLength, -⟩
  rcases take_eq_ok hskipped with ⟨hskippedBytes, hskippedLength, -⟩
  rcases exists_lineTables hlines with ⟨attributes, tables, hattributes, htables, hflatten⟩
  refine ⟨code, attributes, tables, ?_, htables, hflatten, hreferences⟩
  refine ⟨length, handlers, handlerBytes, hcodeLength.symm, hskippedLength, ?_⟩
  rw [u2_eq_ok hstack, u2_eq_ok hlocals, u4_eq_ok hlength, hcodeBytes, u2_eq_ok hhandlers,
    hskippedBytes, hattributes]

/-- Source lines are attributed to references by the line table alone: sorting the table and halving
it for each place gives each reference its line, which is that of the last of the entries with the
greatest start that is not behind the place, or zero if all start behind it. The table is what the
line tables of the code body say, one after another. -/
theorem line_attribution (pool : ConstantPool) :
    (∀ lines code, scanReferences pool lines code =
      (scanReferences pool [] code).map
        (List.map (.withLine (lineBefore (sortByStart lines))))) ∧
    (∀ lines code references, scanReferences pool lines code = .ok references →
      ∀ r ∈ references, HasLine lines r.pc r.line) ∧
    ∀ c body c', readCode pool c = .ok (body, c') →
      ∃ code attributes tables, CodeWritten pool body c.bytes c'.bytes code attributes tables ∧
        ∀ r ∈ body.references, HasLine tables.flatten r.pc r.line := by
  refine ⟨fun lines code => ?_, fun _ _ _ => hasLine_of_scanReferences, fun c body c' h => ?_⟩
  · have hlookup : (lineAt · lines) = lineBefore (sortByStart lines) := by
      funext pc
      exact hasLine_iff.1 (hasLine_lineBefore lines pc)
    rw [scanReferences_eq_map, hlookup]
  · rcases exists_codeWritten h with ⟨code, attributes, tables, hwritten⟩
    refine ⟨code, attributes, tables, hwritten, ?_⟩
    rw [← hwritten.lines_eq]
    exact hasLine_of_scanReferences hwritten.scanned

/-- A pool that holds one reference, to a field `A.x` of type `int`, and the name of line tables. -/
def linedPool : ConstantPool :=
  ⟨#[none, some (.fieldRef 2 3), some (.classRef 4), some (.nameAndType 5 6), some (.utf8 "A"),
    some (.utf8 "x"), some (.utf8 "I"), some (.utf8 "LineNumberTable")]⟩

/-- Two accesses to a static field, at 0 and at 4. -/
def linedCode : Bytes := [0xb2, 0, 1, 0x57, 0xb2, 0, 1, 0xb1]

/-- Two line tables: the first one is not in the order of its places, and both name the place 4. -/
def linedTables : List (List LineNumber) := [[⟨4, 30⟩, ⟨0, 10⟩], [⟨4, 31⟩]]

/-- The line tables as attributes. -/
def linedAttributes : List Assembly.Attribute :=
  linedTables.map fun entries => ⟨7, lineTableBytes entries⟩

/-- The accesses with their lines. -/
def linedReferences : List MemberReference :=
  [⟨.getStatic, "A", false, "x", "I", [], "int", 0, 10⟩,
    ⟨.getStatic, "A", false, "x", "I", [], "int", 4, 31⟩]

/-- The code body with these attributes. -/
def linedBody : Bytes :=
  word16 1 ++ (word16 0 ++ (word32 8 ++ (linedCode ++ (word16 0 ++ ([] ++
    tableBytes linedAttributes)))))

theorem reads_linedBody :
    Reads linedBody (readCode linedPool) ⟨1, 0, linedTables.flatten, linedReferences⟩ := by
  have hscan : scanReferences linedPool linedTables.flatten linedCode = .ok linedReferences := by
    decide +kernel
  have hsaid : List.Forall₂ (Says linedPool codeAttribute) linedAttributes
      (linedTables.map some) := .cons rfl (.cons rfl .nil)
  have hfitting : Fitting linedAttributes := by
    constructor <;> decide
  rw [readCode_eq]
  refine (Reads.u2 1).bind ((Reads.u2 0).bind ((Reads.u4 8).bind ((Reads.take linedCode).bind ?_)))
  refine (Reads.u2 0).bind ((Reads.take []).bind ?_)
  exact (reads_gather readByName_code hfitting hsaid).bind_nil
    ((Reads.lift hscan).bind_nil Reads.pure)

/-- The second access has the line of the last entry for its place, which is in the second table. -/
theorem line_attribution_lined :
    ∃ body c', readCode linedPool ⟨0, linedBody ++ []⟩ = .ok (body, c') ∧
      body.references.map (fun r => (r.pc, r.line)) = [(0, 10), (4, 31)] ∧
      ∀ r ∈ body.references, HasLine body.lines r.pc r.line := by
  have hread := reads_linedBody 0 []
  rcases (line_attribution linedPool).2.2 _ _ _ hread with
    ⟨code, attributes, tables, hwritten, hattributed⟩
  refine ⟨_, _, hread, rfl, ?_⟩
  rw [hwritten.lines_eq]
  exact hattributed

end TypeAtlas.ClassFile
