import Mathlib.Algebra.GroupWithZero.Nat
import TypeAtlas.Proofs.ClassFile.Scan

/-!
# The instruction set

What the scan of a code body takes for an instruction, stated without the scan: the number of
operand bytes of each opcode (`operandCount`), and the forms of the instructions whose operands say
themselves how many they are (`Shaped`). A code body `Splits` into instructions if these follow each
other from its start to its end. The length that the scan computes is that of the one instruction
which stands there (`operandLength_eq_ok_iff`).
-/

set_option autoImplicit false

namespace TypeAtlas.ClassFile

/-! ## Opcodes -/

/-- The number of operand bytes of an opcode, if the opcode alone determines it. -/
def operandCount (opcode : UInt8) : Option Nat :=
  -- `invokeinterface`, `invokedynamic`, `goto_w` and `jsr_w`
  if opcode ∈ [0xb9, 0xba, 0xc8, 0xc9] then some 4
  -- `multianewarray`
  else if opcode = 0xc5 then some 3
  -- `sipush`, `ldc_w`, `ldc2_w`, `iinc`, `new`, `anewarray`, `checkcast`, `instanceof`, `ifnull`,
  -- `ifnonnull`; the other branches; accesses to fields and calls
  else if opcode ∈ [0x11, 0x13, 0x14, 0x84, 0xbb, 0xbd, 0xc0, 0xc1, 0xc6, 0xc7] ∨
      (0x99 ≤ opcode ∧ opcode ≤ 0xa8) ∨ (0xb2 ≤ opcode ∧ opcode ≤ 0xb8) then some 2
  -- `bipush`, `ldc`, `ret`, `newarray`; loads and stores of a numbered variable
  else if opcode ∈ [0x10, 0x12, 0xa9, 0xbc] ∨ (0x15 ≤ opcode ∧ opcode ≤ 0x19) ∨
      (0x36 ≤ opcode ∧ opcode ≤ 0x3a) then some 1
  -- `tableswitch`, `lookupswitch` and `wide`
  else if opcode ∈ [0xaa, 0xab, 0xc4] then none
  -- the other instructions, and the three opcodes that are reserved
  else if opcode ≤ 0xc9 ∨ opcode ∈ [0xca, 0xfe, 0xff] then some 0
  else none

/-- What follows an opcode, by its number of operand bytes. -/
def shapeOf (opcode : UInt8) : OperandShape :=
  if opcode = 0xaa then .tableSwitch
  else if opcode = 0xab then .lookupSwitch
  else if opcode = 0xc4 then .wide
  else
    match operandCount opcode with
    | some count => .fixed count
    | none => .undefined

theorem operandShape_ofNat :
    ∀ n : Fin 256, operandShape (UInt8.ofNat n) = shapeOf (UInt8.ofNat n) := by
  decide +kernel

theorem operandShape_eq (opcode : UInt8) : operandShape opcode = shapeOf opcode := by
  have h := operandShape_ofNat ⟨opcode.toNat, opcode.toNat_lt⟩
  rw [UInt8.ofNat_toNat] at h
  exact h

/-! ## Instructions -/

/-- An instruction of a code body: where it stands, its opcode and its operands. -/
structure PlacedInstruction where
  pc : Nat
  opcode : UInt8
  operands : Bytes
  deriving DecidableEq, Repr

/-- The operands of the instruction at `pc` are of the form that its opcode asks for. -/
inductive Shaped (pc : Nat) : UInt8 → Bytes → Prop
  /-- The opcode determines the number of operand bytes. -/
  | plain {opcode : UInt8} {operands : Bytes} (h : operandCount opcode = some operands.length) :
      Shaped pc opcode operands
  /-- A table switch: padding up to a multiple of four, a default, the lowest and the highest key,
  and an offset for each key from the one to the other. -/
  | tableSwitch {padding default offsets : Bytes} {low high : UInt32}
      (hpadding : padding.length < 4) (haligned : (pc + 1 + padding.length) % 4 = 0)
      (hdefault : default.length = 4) (hle : low.toInt32 ≤ high.toInt32)
      (hoffsets : (offsets.length : Int) = 4 * (high.toInt32.toInt - low.toInt32.toInt + 1)) :
      Shaped pc 0xaa (padding ++ (default ++ (word32 low ++ (word32 high ++ offsets))))
  /-- A lookup switch: padding up to a multiple of four, a default, a number of pairs that is not
  negative, and the pairs, each a key and an offset. -/
  | lookupSwitch {padding default table : Bytes} {pairs : UInt32}
      (hpadding : padding.length < 4) (haligned : (pc + 1 + padding.length) % 4 = 0)
      (hdefault : default.length = 4) (hpos : 0 ≤ pairs.toInt32)
      (htable : (table.length : Int) = 8 * pairs.toInt32.toInt) :
      Shaped pc 0xab (padding ++ (default ++ (word32 pairs ++ table)))
  /-- An increment with a wide variable number and a wide constant: six bytes in all. -/
  | wideIncrement {operands : Bytes} (h : operands.length = 4) :
      Shaped pc 0xc4 (0x84 :: operands)
  /-- Another opcode with a wide variable number: four bytes in all. -/
  | wide {modified : UInt8} {operands : Bytes} (hmodified : modified ≠ 0x84)
      (h : operands.length = 2) : Shaped pc 0xc4 (modified :: operands)

/-- A code body that starts at `pc` is a sequence of instructions, from its start to its end. -/
inductive Splits : Nat → Bytes → List PlacedInstruction → Prop
  | nil (pc : Nat) : Splits pc [] []
  | cons {pc : Nat} {opcode : UInt8} {operands rest : Bytes} {others : List PlacedInstruction}
      (hshaped : Shaped pc opcode operands)
      (hothers : Splits (pc + 1 + operands.length) rest others) :
      Splits pc (opcode :: (operands ++ rest)) (⟨pc, opcode, operands⟩ :: others)

/-! ## Words -/

theorem ofBigEndian_lt (bytes : Bytes) : ofBigEndian bytes < 256 ^ bytes.length := by
  induction bytes using List.reverseRecOn with
  | nil => exact Nat.one_pos
  | append_singleton front b ih =>
    have hb := b.toNat_lt
    rw [ofBigEndian_append, List.length_append, List.length_singleton, Nat.pow_succ]
    omega

/-- A byte string is the number that it writes, written in as many bytes. -/
theorem toBigEndian_ofBigEndian (bytes : Bytes) :
    toBigEndian bytes.length (ofBigEndian bytes) = bytes := by
  induction bytes using List.reverseRecOn with
  | nil => rfl
  | append_singleton front b ih =>
    have hb := b.toNat_lt
    have hhigh : (ofBigEndian front * 256 + b.toNat) / 256 = ofBigEndian front := by omega
    have hlow : UInt8.ofNat (ofBigEndian front * 256 + b.toNat) = b := by
      rw [← UInt8.toNat_inj, UInt8.toNat_ofNat']
      omega
    rw [ofBigEndian_append, List.length_append, List.length_singleton, toBigEndian, hhigh, hlow, ih]

theorem word16_ofBigEndian {bytes : Bytes} (h : bytes.length = 2) :
    word16 (UInt16.ofNat (ofBigEndian bytes)) = bytes := by
  have hbound := ofBigEndian_lt bytes
  rw [h] at hbound
  have hword := toBigEndian_ofBigEndian bytes
  rw [h] at hword
  rw [word16, UInt16.toNat_ofNat_of_lt' hbound, hword]

theorem word32_ofBigEndian {bytes : Bytes} (h : bytes.length = 4) :
    word32 (UInt32.ofNat (ofBigEndian bytes)) = bytes := by
  have hbound := ofBigEndian_lt bytes
  rw [h] at hbound
  have hword := toBigEndian_ofBigEndian bytes
  rw [h] at hword
  rw [word32, UInt32.toNat_ofNat_of_lt' hbound, hword]

theorem word64_ofBigEndian {bytes : Bytes} (h : bytes.length = 8) :
    word64 (UInt64.ofNat (ofBigEndian bytes)) = bytes := by
  have hbound := ofBigEndian_lt bytes
  rw [h] at hbound
  have hword := toBigEndian_ofBigEndian bytes
  rw [h] at hword
  rw [word64, UInt64.toNat_ofNat_of_lt' hbound, hword]

/-- The bytes in front count by the number of bytes behind them. -/
theorem ofBigEndian_concat (front back : Bytes) :
    ofBigEndian (front ++ back) = ofBigEndian front * 256 ^ back.length + ofBigEndian back := by
  induction back using List.reverseRecOn with
  | nil =>
    rw [List.append_nil, List.length_nil, Nat.pow_zero, Nat.mul_one]
    rfl
  | append_singleton back b ih =>
    rw [← List.append_assoc, ofBigEndian_append, ofBigEndian_append, ih, List.length_append,
      List.length_singleton, Nat.pow_succ, Nat.add_mul, Nat.mul_assoc, Nat.add_assoc]

/-- A signed word is read where four bytes stand. -/
theorem signedWordAt_eq_ok_iff {position : Nat} {bytes : Bytes} {value : Int} :
    signedWordAt position bytes = .ok value ↔
      ∃ front word rest, bytes = front ++ (word32 word ++ rest) ∧ front.length = position ∧
        word.toInt32.toInt = value := by
  constructor
  · intro h
    unfold signedWordAt at h
    split at h
    · rename_i word rest hsplit
      obtain ⟨hbytes, hlength⟩ := splitExactly_eq_some_iff.1 hsplit
      cases h
      -- there are bytes behind the position, so the input reaches up to it
      have hposition : position ≤ bytes.length := by
        have := congrArg List.length hbytes
        rw [List.length_drop, List.length_append, hlength] at this
        omega
      refine ⟨bytes.take position, _, rest, ?_, List.length_take_of_le hposition, rfl⟩
      rw [word32_ofBigEndian hlength, ← hbytes, List.take_append_drop]
    · cases h
  · rintro ⟨front, word, rest, rfl, rfl, rfl⟩
    exact signedWordAt_append front word rest

/-! ## Lengths -/

/-- The padding that is written is the padding that is skipped. -/
theorem switchPadding_eq {pc : Nat} {padding : Bytes} (hpadding : padding.length < 4)
    (haligned : (pc + 1 + padding.length) % 4 = 0) : switchPadding pc = padding.length := by
  unfold switchPadding
  omega

theorem operandLength_eq_fixed {opcode : UInt8} {count : Nat}
    (h : operandShape opcode = .fixed count) (pc : Nat) (bytes : Bytes) :
    operandLength pc opcode bytes = .ok count := by
  unfold operandLength
  rw [h]

theorem operandLength_eq_tableSwitch (pc : Nat) (bytes : Bytes) :
    operandLength pc 0xaa bytes = (do
      let low ← signedWordAt (switchPadding pc + 4) bytes
      let high ← signedWordAt (switchPadding pc + 8) bytes
      if high < low then malformedCode
      else .ok (switchPadding pc + 12 + (high - low + 1).toNat * 4)) := rfl

theorem operandLength_eq_lookupSwitch (pc : Nat) (bytes : Bytes) :
    operandLength pc 0xab bytes = (do
      let pairs ← signedWordAt (switchPadding pc + 4) bytes
      if pairs < 0 then malformedCode else .ok (switchPadding pc + 8 + pairs.toNat * 8)) := rfl

theorem operandLength_eq_wide (pc : Nat) (modified : UInt8) (bytes : Bytes) :
    operandLength pc 0xc4 (modified :: bytes) = .ok (if modified = 0x84 then 5 else 3) := rfl

theorem operandLength_of_plain {opcode : UInt8} {count : Nat} (h : operandCount opcode = some count)
    (pc : Nat) (bytes : Bytes) : operandLength pc opcode bytes = .ok count := by
  have hshape : operandShape opcode = .fixed count := by
    rw [operandShape_eq, shapeOf, h]
    -- the opcodes with forms of their own have no fixed number of operand bytes
    have hform : opcode ≠ 0xaa ∧ opcode ≠ 0xab ∧ opcode ≠ 0xc4 := by
      refine ⟨?_, ?_, ?_⟩ <;> (rintro rfl; cases h)
    rw [if_neg hform.1, if_neg hform.2.1, if_neg hform.2.2]
  exact operandLength_eq_fixed hshape pc bytes

/-- A word that stands behind the padding and further bytes is read there. -/
theorem signedWordAt_behind_padding {pc count : Nat} {padding bytes : Bytes} {word : UInt32}
    (hpadding : padding.length < 4) (haligned : (pc + 1 + padding.length) % 4 = 0)
    (between rest : Bytes) (hcount : between.length = count)
    (hbytes : bytes = padding ++ (between ++ (word32 word ++ rest))) :
    signedWordAt (switchPadding pc + count) bytes = .ok word.toInt32.toInt := by
  refine signedWordAt_eq_ok_iff.2 ⟨padding ++ between, word, rest, ?_, ?_, rfl⟩
  · rw [hbytes, List.append_assoc]
  · rw [List.length_append, hcount, switchPadding_eq hpadding haligned]

theorem operandLength_of_shaped_tableSwitch {pc : Nat} {padding default offsets : Bytes}
    {low high : UInt32} (hpadding : padding.length < 4)
    (haligned : (pc + 1 + padding.length) % 4 = 0) (hdefault : default.length = 4)
    (hle : low.toInt32 ≤ high.toInt32)
    (hoffsets : (offsets.length : Int) = 4 * (high.toInt32.toInt - low.toInt32.toInt + 1))
    (rest : Bytes) :
    operandLength pc 0xaa
        (padding ++ (default ++ (word32 low ++ (word32 high ++ offsets))) ++ rest) =
      .ok (padding ++ (default ++ (word32 low ++ (word32 high ++ offsets)))).length := by
  have hlow : signedWordAt (switchPadding pc + 4)
      (padding ++ (default ++ (word32 low ++ (word32 high ++ offsets))) ++ rest) =
        .ok low.toInt32.toInt := by
    refine signedWordAt_behind_padding hpadding haligned default
      (word32 high ++ (offsets ++ rest)) hdefault ?_
    simp only [List.append_assoc]
  have hhigh : signedWordAt (switchPadding pc + 8)
      (padding ++ (default ++ (word32 low ++ (word32 high ++ offsets))) ++ rest) =
        .ok high.toInt32.toInt := by
    refine signedWordAt_behind_padding hpadding haligned (default ++ word32 low)
      (offsets ++ rest) ?_ ?_
    · rw [List.length_append, hdefault, length_word32]
    · simp only [List.append_assoc]
  have hle' : ¬ high.toInt32.toInt < low.toInt32.toInt :=
    Int.not_lt.2 (Int32.le_iff_toInt_le.1 hle)
  rw [operandLength_eq_tableSwitch, hlow, hhigh]
  show (if high.toInt32.toInt < low.toInt32.toInt then _ else _) = _
  rw [if_neg hle']
  simp only [List.length_append, length_word32, hdefault, switchPadding_eq hpadding haligned]
  congr 1
  omega

theorem operandLength_of_shaped_lookupSwitch {pc : Nat} {padding default table : Bytes}
    {pairs : UInt32} (hpadding : padding.length < 4)
    (haligned : (pc + 1 + padding.length) % 4 = 0) (hdefault : default.length = 4)
    (hpos : 0 ≤ pairs.toInt32) (htable : (table.length : Int) = 8 * pairs.toInt32.toInt)
    (rest : Bytes) :
    operandLength pc 0xab (padding ++ (default ++ (word32 pairs ++ table)) ++ rest) =
      .ok (padding ++ (default ++ (word32 pairs ++ table))).length := by
  have hpairs : signedWordAt (switchPadding pc + 4)
      (padding ++ (default ++ (word32 pairs ++ table)) ++ rest) = .ok pairs.toInt32.toInt := by
    refine signedWordAt_behind_padding hpadding haligned default (table ++ rest) hdefault ?_
    simp only [List.append_assoc]
  have hpos' : ¬ pairs.toInt32.toInt < 0 := Int.not_lt.2 (Int32.le_iff_toInt_le.1 hpos)
  rw [operandLength_eq_lookupSwitch, hpairs]
  show (if pairs.toInt32.toInt < 0 then _ else _) = _
  rw [if_neg hpos']
  simp only [List.length_append, length_word32, hdefault, switchPadding_eq hpadding haligned]
  congr 1
  omega

/-- The length that is computed for an instruction is that of its operands, whatever follows. -/
theorem operandLength_of_shaped {pc : Nat} {opcode : UInt8} {operands : Bytes}
    (h : Shaped pc opcode operands) (rest : Bytes) :
    operandLength pc opcode (operands ++ rest) = .ok operands.length := by
  cases h with
  | plain h => exact operandLength_of_plain h pc _
  | tableSwitch hpadding haligned hdefault hle hoffsets =>
    exact operandLength_of_shaped_tableSwitch hpadding haligned hdefault hle hoffsets rest
  | lookupSwitch hpadding haligned hdefault hpos htable =>
    exact operandLength_of_shaped_lookupSwitch hpadding haligned hdefault hpos htable rest
  | wideIncrement h =>
    rw [List.cons_append, operandLength_eq_wide, List.length_cons, h]
    rfl
  | wide hmodified h =>
    rw [List.cons_append, operandLength_eq_wide, if_neg hmodified, List.length_cons, h]

/-- The words of two positions four bytes apart follow each other. -/
theorem adjacent_words {bytes front front' rest rest' : Bytes} {word word' : UInt32}
    (h : bytes = front ++ (word32 word ++ rest)) (h' : bytes = front' ++ (word32 word' ++ rest'))
    (hlength : front'.length = front.length + 4) : rest = word32 word' ++ rest' := by
  rw [h, ← List.append_assoc] at h'
  have hfront : (front ++ word32 word).length = front'.length := by
    rw [List.length_append, length_word32, hlength]
  exact (List.append_inj h' hfront).2

/-- The bytes before a switch's first word are its padding and its default. -/
theorem exists_padding {pc : Nat} {front : Bytes} (h : front.length = switchPadding pc + 4) :
    ∃ padding default : Bytes, front = padding ++ default ∧ default.length = 4 ∧
      padding.length < 4 ∧ (pc + 1 + padding.length) % 4 = 0 := by
  have hlength : (front.take (switchPadding pc)).length = switchPadding pc :=
    List.length_take_of_le (by omega)
  refine ⟨front.take (switchPadding pc), front.drop (switchPadding pc),
    (List.take_append_drop _ front).symm, ?_, ?_, ?_⟩
  · rw [List.length_drop, h, Nat.add_sub_cancel_left]
  · rw [hlength]
    unfold switchPadding
    omega
  · rw [hlength]
    unfold switchPadding
    omega

/-- What comes first in a string and is not longer than its first part begins this part. -/
theorem exists_eq_append {operands rest front back : Bytes} (h : operands ++ rest = front ++ back)
    (hle : front.length ≤ operands.length) : ∃ tail, front ++ tail = operands := by
  have hfront : front <+: operands ++ rest := by
    rw [h]
    exact List.prefix_append front back
  exact List.prefix_of_prefix_length_le hfront (List.prefix_append operands rest) hle

theorem shaped_of_tableSwitch {pc : Nat} {operands rest : Bytes}
    (h : operandLength pc 0xaa (operands ++ rest) = .ok operands.length) :
    Shaped pc 0xaa operands := by
  rw [operandLength_eq_tableSwitch] at h
  obtain ⟨low, hlow, h⟩ := bind_eq_ok_iff.1 h
  obtain ⟨high, hhigh, h⟩ := bind_eq_ok_iff.1 h
  obtain ⟨front, lowWord, afterLow, hbytes, hfront, rfl⟩ := signedWordAt_eq_ok_iff.1 hlow
  obtain ⟨front', highWord, afterHigh, hbytes', hfront', rfl⟩ := signedWordAt_eq_ok_iff.1 hhigh
  split at h
  · cases h
  · rename_i hle
    have hlength := Except.ok.inj h
    have hafter := adjacent_words hbytes hbytes' (by omega)
    obtain ⟨padding, default, rfl, hdefault, hpadding, haligned⟩ := exists_padding hfront
    have hskip := switchPadding_eq hpadding haligned
    subst hafter
    -- the operands reach behind both words
    have hwhole : operands ++ rest =
        (padding ++ (default ++ (word32 lowWord ++ word32 highWord))) ++ afterHigh := by
      rw [hbytes]
      simp only [List.append_assoc]
    obtain ⟨offsets, rfl⟩ := exists_eq_append hwhole (by
      simp only [List.length_append, length_word32]
      omega)
    have hoffsets : (offsets.length : Int) =
        4 * (highWord.toInt32.toInt - lowWord.toInt32.toInt + 1) := by
      simp only [List.length_append, length_word32] at hlength
      omega
    simp only [List.append_assoc]
    exact .tableSwitch hpadding haligned hdefault
      (Int32.le_iff_toInt_le.2 (Int.not_lt.1 hle)) hoffsets

theorem shaped_of_lookupSwitch {pc : Nat} {operands rest : Bytes}
    (h : operandLength pc 0xab (operands ++ rest) = .ok operands.length) :
    Shaped pc 0xab operands := by
  rw [operandLength_eq_lookupSwitch] at h
  obtain ⟨pairs, hpairs, h⟩ := bind_eq_ok_iff.1 h
  obtain ⟨front, word, afterPairs, hbytes, hfront, rfl⟩ := signedWordAt_eq_ok_iff.1 hpairs
  split at h
  · cases h
  · rename_i hpos
    have hlength := Except.ok.inj h
    obtain ⟨padding, default, rfl, hdefault, hpadding, haligned⟩ := exists_padding hfront
    have hskip := switchPadding_eq hpadding haligned
    have hwhole : operands ++ rest =
        (padding ++ (default ++ word32 word)) ++ afterPairs := by
      rw [hbytes]
      simp only [List.append_assoc]
    obtain ⟨table, rfl⟩ := exists_eq_append hwhole (by
      simp only [List.length_append, length_word32]
      omega)
    have htable : (table.length : Int) = 8 * word.toInt32.toInt := by
      simp only [List.length_append, length_word32] at hlength
      omega
    simp only [List.append_assoc]
    exact .lookupSwitch hpadding haligned hdefault
      (Int32.le_iff_toInt_le.2 (Int.not_lt.1 hpos)) htable

theorem shaped_of_wide {pc : Nat} {operands rest : Bytes}
    (h : operandLength pc 0xc4 (operands ++ rest) = .ok operands.length) :
    Shaped pc 0xc4 operands := by
  cases operands with
  -- there are operands, since at least three bytes of them are asked for
  | nil =>
    cases rest with
    | nil => cases h
    | cons modified rest =>
      rw [List.nil_append, operandLength_eq_wide] at h
      have hlength : (if modified = 0x84 then 5 else 3) = 0 := Except.ok.inj h
      split at hlength <;> cases hlength
  | cons modified operands =>
    rw [List.cons_append, operandLength_eq_wide] at h
    have hlength : (if modified = 0x84 then 5 else 3) = operands.length + 1 := Except.ok.inj h
    by_cases hmodified : modified = 0x84
    · rw [if_pos hmodified] at hlength
      subst hmodified
      exact .wideIncrement (by omega)
    · rw [if_neg hmodified] at hlength
      exact .wide hmodified (by omega)

/-- What is taken for an instruction has the form of one. -/
theorem shaped_of_operandLength {pc : Nat} {opcode : UInt8} {operands rest : Bytes}
    (h : operandLength pc opcode (operands ++ rest) = .ok operands.length) :
    Shaped pc opcode operands := by
  by_cases htable : opcode = 0xaa
  · subst htable
    exact shaped_of_tableSwitch h
  by_cases hlookup : opcode = 0xab
  · subst hlookup
    exact shaped_of_lookupSwitch h
  by_cases hwide : opcode = 0xc4
  · subst hwide
    exact shaped_of_wide h
  have hshape := operandShape_eq opcode
  rw [shapeOf, if_neg htable, if_neg hlookup, if_neg hwide] at hshape
  cases hcount : operandCount opcode with
  | none =>
    rw [hcount] at hshape
    unfold operandLength at h
    rw [hshape] at h
    cases h
  | some count =>
    rw [operandLength_of_plain hcount] at h
    rw [Except.ok.inj h] at hcount
    exact .plain hcount

/-- The scan takes exactly what has the form of an instruction for one. -/
theorem operandLength_eq_ok_iff {pc : Nat} {opcode : UInt8} {operands rest : Bytes} :
    operandLength pc opcode (operands ++ rest) = .ok operands.length ↔ Shaped pc opcode operands :=
  ⟨shaped_of_operandLength, fun h => operandLength_of_shaped h rest⟩

end TypeAtlas.ClassFile
