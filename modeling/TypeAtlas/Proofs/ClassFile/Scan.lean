import Mathlib.Data.List.Induction
import TypeAtlas.ClassFile.Reference
import TypeAtlas.Proofs.ClassFile.Reads

/-!
# Scanning code

The scan takes one instruction after another (`scanFrom_cons`), and the line of a place is decided
by the entries of the line table up to it: entries behind it do not count (`lineAt_append`), and an
entry that starts at it comes before all others (`lineAt_concat`).
-/

set_option autoImplicit false

namespace TypeAtlas.ClassFile

/-! ## Lines -/

theorem coveringLine_concat (pc : Nat) (lines : List LineNumber) (entry : LineNumber) :
    coveringLine pc (lines ++ [entry]) =
      if entry.startPc.toNat ≤ pc then
        match coveringLine pc lines with
        | some b => if b.startPc ≤ entry.startPc then some entry else coveringLine pc lines
        | none => some entry
      else coveringLine pc lines := by
  unfold coveringLine
  exact List.foldl_append

theorem startPc_coveringLine {pc : Nat} {lines : List LineNumber} {entry : LineNumber}
    (h : coveringLine pc lines = some entry) : entry.startPc.toNat ≤ pc := by
  induction lines using List.reverseRecOn generalizing entry with
  | nil => cases h
  | append_singleton lines last ih =>
    rw [coveringLine_concat] at h
    split at h
    · rename_i hlast
      split at h
      · split at h
        · cases h
          exact hlast
        · exact ih h
      · cases h
        exact hlast
    · exact ih h

/-- Entries that start behind a place say nothing about it. -/
theorem lineAt_append {pc : Nat} {later : List LineNumber}
    (h : ∀ e ∈ later, pc < e.startPc.toNat) (early : List LineNumber) :
    lineAt pc (early ++ later) = lineAt pc early := by
  -- the table is folded from the left, so the induction takes entries off its end
  induction later using List.reverseRecOn with
  | nil => rw [List.append_nil]
  | append_singleton later last ih =>
    have hlast := h last (List.mem_append_right later (List.mem_singleton.2 rfl))
    have hcover : coveringLine pc (early ++ (later ++ [last])) =
        coveringLine pc (early ++ later) := by
      rw [← List.append_assoc, coveringLine_concat, if_neg (Nat.not_le.2 hlast)]
    unfold lineAt at ih ⊢
    rw [hcover]
    exact ih fun e he => h e (List.mem_append_left _ he)

/-- The last entry decides, if it starts at the place. -/
theorem lineAt_concat {pc : Nat} {entry : LineNumber} (h : entry.startPc.toNat = pc)
    (lines : List LineNumber) : lineAt pc (lines ++ [entry]) = entry.line := by
  have hcover : coveringLine pc (lines ++ [entry]) = some entry := by
    rw [coveringLine_concat, if_pos (Nat.le_of_eq h)]
    split
    -- the entry covering so far starts no later, so the last one replaces it
    · rename_i b hb
      refine if_pos (UInt16.le_iff_toNat_le.2 ?_)
      rw [h]
      exact startPc_coveringLine hb
    · rfl
  rw [lineAt, hcover]

/-- A place further on is in the same line as long as no entry starts in between. -/
theorem lineAt_of_le {pc pc' : Nat} {lines : List LineNumber}
    (h : ∀ e ∈ lines, e.startPc.toNat ≤ pc) (hle : pc ≤ pc') :
    lineAt pc' lines = lineAt pc lines := by
  have hcover : coveringLine pc' lines = coveringLine pc lines := by
    induction lines using List.reverseRecOn with
    | nil => rfl
    | append_singleton lines last ih =>
      have hlast := h last (List.mem_append_right lines (List.mem_singleton.2 rfl))
      rw [coveringLine_concat, coveringLine_concat, if_pos hlast, if_pos (Nat.le_trans hlast hle),
        ih fun e he => h e (List.mem_append_left _ he)]
  rw [lineAt, lineAt, hcover]

/-! ## Instructions -/

/-- The scan takes as many operands as the instruction has, and goes on behind them. -/
theorem scanFrom_eq (pool : ConstantPool) (lines : List LineNumber) (pc : Nat) (opcode : UInt8)
    (following : Bytes) :
    scanFrom pool lines pc (opcode :: following) = (do
      let length ← operandLength pc opcode following
      if length ≤ following.length then
        let here ← referenceAt pool lines pc opcode (following.take length)
        let others ← scanFrom pool lines (pc + 1 + length) (following.drop length)
        return here.toList ++ others
      else malformedCode) := by
  rw [scanFrom]
  refine bind_congr fun length => ?_
  split
  · rename_i hnone
    rw [splitExactly_eq] at hnone
    split at hnone
    · cases hnone
    · rename_i hle
      rw [if_neg hle]
  · rename_i operands rest hsome
    obtain ⟨rfl, rfl⟩ := splitExactly_eq_some_iff.1 hsome
    rw [List.length_append, if_pos (Nat.le_add_right _ _), List.take_left, List.drop_left]

/-- The scan takes an instruction and goes on behind it. -/
theorem scanFrom_cons_eq {pc : Nat} {opcode : UInt8} {operands rest : Bytes}
    (hlength : operandLength pc opcode (operands ++ rest) = .ok operands.length)
    (pool : ConstantPool) (lines : List LineNumber) :
    scanFrom pool lines pc (opcode :: (operands ++ rest)) = (do
      let here ← referenceAt pool lines pc opcode operands
      let others ← scanFrom pool lines (pc + 1 + operands.length) rest
      return here.toList ++ others) := by
  have hle : operands.length ≤ (operands ++ rest).length := by
    rw [List.length_append]
    exact Nat.le_add_right _ _
  rw [scanFrom_eq, hlength]
  show (if operands.length ≤ (operands ++ rest).length then _ else _) = _
  rw [if_pos hle, List.take_left, List.drop_left]
theorem scanFrom_cons {pool : ConstantPool} {lines : List LineNumber} {pc : Nat} {opcode : UInt8}
    {operands rest : Bytes} {here : Option MemberReference} {others : List MemberReference}
    (hlength : operandLength pc opcode (operands ++ rest) = .ok operands.length)
    (hhere : referenceAt pool lines pc opcode operands = .ok here)
    (hothers : scanFrom pool lines (pc + 1 + operands.length) rest = .ok others) :
    scanFrom pool lines pc (opcode :: (operands ++ rest)) = .ok (here.toList ++ others) := by
  rw [scanFrom_cons_eq hlength, hhere]
  show (scanFrom pool lines (pc + 1 + operands.length) rest >>= fun _ => _) = _
  rw [hothers]
  rfl

theorem ofBigEndian_word16 (n : UInt16) : UInt16.ofNat (ofBigEndian (word16 n)) = n := by
  rw [word16, ofBigEndian_toBigEndian, Nat.mod_eq_of_lt n.toNat_lt, UInt16.ofNat_toNat]

theorem ofOpcode?_opcode (kind : ReferenceKind) :
    ReferenceKind.ofOpcode? kind.opcode = some kind := by
  cases kind <;> rfl

/-- A word is read where it stands. -/
theorem signedWordAt_append (front : Bytes) (word : UInt32) (rest : Bytes) :
    signedWordAt front.length (front ++ (word32 word ++ rest)) = .ok word.toInt32.toInt := by
  have hle : 4 ≤ (word32 word ++ rest).length := by
    rw [List.length_append, length_word32]
    exact Nat.le_add_right _ _
  have hvalue : UInt32.ofNat (ofBigEndian (word32 word)) = word := by
    rw [word32, ofBigEndian_toBigEndian, Nat.mod_eq_of_lt word.toNat_lt, UInt32.ofNat_toNat]
  rw [signedWordAt, List.drop_left, splitExactly_eq, if_pos hle,
    List.take_left' (length_word32 word)]
  show Except.ok (UInt32.ofNat (ofBigEndian (word32 word))).toInt32.toInt = _
  rw [hvalue]

end TypeAtlas.ClassFile
