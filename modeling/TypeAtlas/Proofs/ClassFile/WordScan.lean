import TypeAtlas.Proofs.ClassFile.ScanExact

/-!
# The scan of a code body on machine words

The scan as a loop on words of 64 bits: each operation on words is checked for overflow, each byte
is looked up at its place in the code, and the number of rounds is bounded. None of these checks
ever fails (`wordScan_eq`), whatever the code: the loop ends, it reads no byte outside of the code,
and no length overflows, although a switch can claim more than four thousand million entries. It
returns what the scan of the code returns, the places cut down to the 32 bits in which they are
stored.
-/

set_option autoImplicit false

namespace TypeAtlas.ClassFile

/-! ## Checked words -/

/-- Why a scan on machine words stops. -/
inductive Stop where
  /-- The result of an operation does not fit into a word. -/
  | overflow
  /-- A byte is read that is not there. -/
  | outOfBounds
  /-- The end is not reached in the rounds that are given. -/
  | unfinished
  /-- The code is rejected. -/
  | rejected (fault : Fault)
  deriving DecidableEq, Repr

/-- The sum of two words. -/
def addWords (a b : UInt64) : Except Stop UInt64 :=
  if a.toNat + b.toNat < 2 ^ 64 then .ok (a + b) else .error .overflow

/-- The difference of two words. -/
def subWords (a b : UInt64) : Except Stop UInt64 :=
  if b ≤ a then .ok (a - b) else .error .overflow

/-- The product of two words. -/
def mulWords (a b : UInt64) : Except Stop UInt64 :=
  if a.toNat * b.toNat < 2 ^ 64 then .ok (a * b) else .error .overflow

/-- A signed number as a word. -/
def signedWord (n : Int) : Except Stop Int64 :=
  if Int64.minValue.toInt ≤ n ∧ n ≤ Int64.maxValue.toInt then .ok (Int64.ofInt n)
  else .error .overflow

section Words

variable {a b : UInt64} {m n : Nat}

theorem addWords_eq_ok (ha : a.toNat = m) (hb : b.toNat = n) (h : m + n < 2 ^ 64) :
    ∃ sum, addWords a b = .ok sum ∧ sum.toNat = m + n := by
  subst ha hb
  refine ⟨a + b, if_pos h, ?_⟩
  rw [UInt64.toNat_add, Nat.mod_eq_of_lt h]

theorem subWords_eq_ok (ha : a.toNat = m) (hb : b.toNat = n) (h : n ≤ m) :
    ∃ difference, subWords a b = .ok difference ∧ difference.toNat = m - n := by
  subst ha hb
  have hle : b ≤ a := UInt64.le_iff_toNat_le.2 h
  exact ⟨a - b, if_pos hle, UInt64.toNat_sub_of_le a b hle⟩

theorem mulWords_eq_ok (ha : a.toNat = m) (hb : b.toNat = n) (h : m * n < 2 ^ 64) :
    ∃ product, mulWords a b = .ok product ∧ product.toNat = m * n := by
  subst ha hb
  refine ⟨a * b, if_pos h, ?_⟩
  rw [UInt64.toNat_mul, Nat.mod_eq_of_lt h]

theorem signedWord_eq_ok {n : Int}
    (h : -9223372036854775808 ≤ n ∧ n ≤ 9223372036854775807) :
    ∃ word, signedWord n = .ok word ∧ word.toInt = n :=
  ⟨Int64.ofInt n, if_pos h, Int64.toInt_ofInt_of_le h.1 (Int.lt_add_one_of_le h.2)⟩

/-- A signed word that is not negative is the same number as an unsigned one. -/
theorem toNat_toUInt64 {word : Int64} (h : 0 ≤ word.toInt) :
    word.toUInt64.toNat = word.toInt.toNat :=
  Int64.toNat_toUInt64_of_le (Int64.le_iff_toInt_le.2 h)

/-- Clearing the two lowest bits rounds down to a multiple of four. -/
theorem toNat_land_not_three (a : UInt64) : (a &&& ~~~3).toNat = a.toNat / 4 * 4 := by
  have hmask : a.toNat &&& (2 ^ 64 - (3 + 1)) = a.toNat / 4 * 4 := by
    apply Nat.eq_of_testBit_eq
    intro i
    have hthree : (3 : Nat).testBit i = decide (i < 2) := Nat.testBit_two_pow_sub_one 2 i
    have hshift : (a.toNat / 2 ^ 2 * 2 ^ 2).testBit i = (decide (2 ≤ i) && a.toNat.testBit i) := by
      rw [Nat.testBit_mul_two_pow, Nat.testBit_div_two_pow]
      by_cases hi : 2 ≤ i
      · rw [Nat.sub_add_cancel hi]
      · rw [decide_eq_false hi, Bool.false_and, Bool.false_and]
    change (a.toNat &&& (2 ^ 64 - (3 + 1))).testBit i = (a.toNat / 2 ^ 2 * 2 ^ 2).testBit i
    rw [Nat.testBit_and, Nat.testBit_two_pow_sub_succ (by decide), hthree, hshift]
    by_cases hlow : 2 ≤ i
    · by_cases hhigh : i < 64
      · simp only [hlow, hhigh, Nat.not_lt.2 hlow, decide_true, decide_false, Bool.not_false,
          Bool.and_self, Bool.and_true, Bool.true_and]
      · have hzero : a.toNat.testBit i = false :=
          Nat.testBit_lt_two_pow (Nat.lt_of_lt_of_le a.toNat_lt
            (Nat.pow_le_pow_right Nat.two_pos (Nat.not_lt.1 hhigh)))
        rw [hzero, Bool.false_and, Bool.and_false]
    · simp only [hlow, Nat.not_le.1 hlow, decide_true, decide_false, Bool.not_true, Bool.and_false,
        Bool.false_and]
  rw [UInt64.toNat_and]
  exact hmask

end Words

/-! ## The scan -/

/-- Rejects the code because its lengths make no sense. -/
def stopMalformed {α : Type} : Except Stop α := .error (.rejected (.malformedAttribute "Code"))

/-- The byte at a place. -/
def byteAt (code : Bytes) (place : UInt64) : Except Stop UInt8 :=
  match code[place.toNat]? with
  | some b => .ok b
  | none => .error .outOfBounds

/-- The signed word in the four bytes from a place on, if they are all there. -/
def wordAt (code : Bytes) (place : UInt64) : Except Stop Int32 := do
  let stop ← addWords place 4
  if stop.toNat ≤ code.length then
    return (UInt32.ofNat (ofBigEndian ((code.drop place.toNat).take 4))).toInt32
  else stopMalformed

/-- The place of the first operand of a switch. -/
def switchOperands (pc : UInt64) : Except Stop UInt64 := do
  return (← addWords pc 4) &&& ~~~3

/-- The number of keys from the lowest to the highest one. -/
def keyCount (low high : Int32) : Except Stop UInt64 := do
  let span ← signedWord (high.toInt64.toInt - low.toInt64.toInt)
  let count ← signedWord (span.toInt + 1)
  return count.toUInt64

/-- The length of a table switch. -/
def tableSwitchLength (code : Bytes) (pc : UInt64) : Except Stop UInt64 := do
  let operands ← switchOperands pc
  let low ← wordAt code (← addWords operands 4)
  let high ← wordAt code (← addWords operands 8)
  if high < low then stopMalformed
  else
    let entries ← keyCount low high
    let front ← addWords (← subWords operands pc) 12
    addWords front (← mulWords entries 4)

/-- The length of a lookup switch. -/
def lookupSwitchLength (code : Bytes) (pc : UInt64) : Except Stop UInt64 := do
  let operands ← switchOperands pc
  let pairs ← wordAt code (← addWords operands 4)
  if pairs < 0 then stopMalformed
  else
    let front ← addWords (← subWords operands pc) 8
    addWords front (← mulWords pairs.toInt64.toUInt64 8)

/-- The length of an instruction with wide operands. -/
def wideLength (code : Bytes) (pc : UInt64) : Except Stop UInt64 := do
  let next ← addWords pc 1
  match code[next.toNat]? with
  | some modified => return if modified = iinc then 6 else 4
  | none => stopMalformed

/-- The length of the instruction at a place, its opcode included. -/
def instructionLength (code : Bytes) (pc : UInt64) : Except Stop UInt64 := do
  let opcode ← byteAt code pc
  match operandShape opcode with
  | .fixed count => return UInt64.ofNat (1 + count)
  | .tableSwitch => tableSwitchLength code pc
  | .lookupSwitch => lookupSwitchLength code pc
  | .wide => wideLength code pc
  | .undefined => .error (.rejected (.unknownOpcode opcode pc.toNat))

/-- Where the scan stands, and what it has found. -/
structure ScanState where
  pc : UInt64
  found : List MemberReference

/-- A reference as it is stored: its place is cut down to 32 bits. -/
def MemberReference.stored (r : MemberReference) : MemberReference :=
  { r with pc := r.pc % UInt32.size }

/-- One round: the instruction at hand is taken, and recorded if it refers to a member. -/
def scanRound (pool : ConstantPool) (lines : List LineNumber) (code : Bytes) (s : ScanState) :
    Except Stop ScanState := do
  let opcode ← byteAt code s.pc
  let length ← instructionLength code s.pc
  let next ← addWords s.pc length
  if code.length < next.toNat then stopMalformed
  else
    match ReferenceKind.ofOpcode? opcode with
    | some kind =>
      let high ← byteAt code (← addWords s.pc 1)
      let low ← byteAt code (← addWords s.pc 2)
      let index := UInt16.ofNat (ofBigEndian [high, low])
      let r ← (memberReference pool lines s.pc.toNat kind index).mapError Stop.rejected
      return ⟨next, s.found ++ [r.stored]⟩
    | none => return ⟨next, s.found⟩

/-- Rounds until the end of the code is reached. -/
def scanRounds (pool : ConstantPool) (lines : List LineNumber) (code : Bytes) :
    Nat → ScanState → Except Stop (List MemberReference)
  | rounds, s =>
    if s.pc.toNat < code.length then
      match rounds with
      | 0 => .error .unfinished
      | rounds + 1 => do scanRounds pool lines code rounds (← scanRound pool lines code s)
    else .ok s.found

/-- The references that a code body makes, found in at most as many rounds as it has bytes. -/
def wordScan (pool : ConstantPool) (lines : List LineNumber) (code : Bytes) :
    Except Stop (List MemberReference) :=
  scanRounds pool lines code code.length ⟨0, []⟩

/-! ## Mirrors -/

section Mirrors

variable {α β α' β' : Type} {R : α → β → Prop} {R' : α' → β' → Prop}

/-- A computation on words does what another one does: it returns a related value, or rejects the
code for the same fault. So it stops for no reason of its own. -/
def Mirrors (R : α → β → Prop) (m : Except Stop α) (n : Except Fault β) : Prop :=
  match n with
  | .ok b => ∃ a, m = .ok a ∧ R a b
  | .error fault => m = .error (.rejected fault)

theorem ok_bind {ε : Type} (a : α) (f : α → Except ε β) : (Except.ok a >>= f) = f a := rfl

theorem Mirrors.ok {a : α} {b : β} (h : R a b) : Mirrors R (.ok a) (.ok b) := ⟨a, rfl, h⟩

theorem Mirrors.malformed : Mirrors R stopMalformed malformedCode := rfl

theorem Mirrors.bind {m : Except Stop α} {n : Except Fault β} {f : α → Except Stop α'}
    {g : β → Except Fault β'} (h : Mirrors R m n)
    (hf : ∀ a b, n = .ok b → R a b → Mirrors R' (f a) (g b)) :
    Mirrors R' (m >>= f) (n >>= g) := by
  cases n with
  | error fault =>
    change m = .error (.rejected fault) at h
    rw [h]
    rfl
  | ok b =>
    obtain ⟨a, rfl, hab⟩ := h
    exact hf a b rfl hab

/-- A value may be changed at the end. -/
theorem Mirrors.map_right {m : Except Stop α} {n : Except Fault β} {R' : α → β' → Prop} {f : β → β'}
    (h : Mirrors R m n) (hf : ∀ a b, R a b → R' a (f b)) :
    Mirrors R' m (n >>= fun b => pure (f b)) := by
  cases n with
  | error fault => exact h
  | ok b =>
    obtain ⟨a, ha, hab⟩ := h
    exact ⟨a, ha, hf a b hab⟩

end Mirrors

/-! ## Lengths on words -/

section Lengths

variable {code following : Bytes} {pc : UInt64} {opcode : UInt8}

/-- A byte that is there is found. -/
theorem byteAt_eq_ok {place : UInt64} {b : UInt8} (h : code[place.toNat]? = some b) :
    byteAt code place = .ok b := by
  unfold byteAt
  rw [h]

/-- The opcode of an instruction is found at its place. -/
theorem byteAt_of_drop_eq_cons (h : code.drop pc.toNat = opcode :: following) :
    byteAt code pc = .ok opcode := by
  refine byteAt_eq_ok ?_
  rw [← Nat.add_zero pc.toNat, ← List.getElem?_drop, h]
  rfl

/-- What follows an instruction's opcode stands behind it in the code. -/
theorem drop_of_drop_eq_cons (h : code.drop pc.toNat = opcode :: following) (n : Nat) :
    code.drop (pc.toNat + 1 + n) = following.drop n := by
  rw [← List.drop_drop, ← List.drop_drop, h]
  rfl

theorem getElem?_of_drop_eq_cons (h : code.drop pc.toNat = opcode :: following) (n : Nat) :
    code[pc.toNat + 1 + n]? = following[n]? := by
  have hdrop := drop_of_drop_eq_cons h n
  rw [← Nat.add_zero (pc.toNat + 1 + n), ← List.getElem?_drop, hdrop, List.getElem?_drop,
    Nat.add_zero]

theorem lt_length_of_drop_eq_cons (h : code.drop pc.toNat = opcode :: following) :
    pc.toNat < code.length := by
  have hlength := congrArg List.length h
  rw [List.length_drop, List.length_cons] at hlength
  omega

/-- A word is read off the code where it stands behind an opcode. -/
theorem mirrors_wordAt (h : code.drop pc.toNat = opcode :: following) {place : UInt64} {n : Nat}
    (hplace : place.toNat = pc.toNat + 1 + n) (hbound : place.toNat + 4 < 2 ^ 64) :
    Mirrors (fun word value => word.toInt = value) (wordAt code place)
      (signedWordAt n following) := by
  obtain ⟨stop, hstop, hvalue⟩ : ∃ stop, addWords place 4 = .ok stop ∧
      stop.toNat = place.toNat + 4 := addWords_eq_ok rfl rfl hbound
  have hrest : following.drop n = code.drop place.toNat := by
    rw [hplace, drop_of_drop_eq_cons h]
  unfold signedWordAt wordAt
  rw [hstop, hrest, splitExactly_eq]
  show Mirrors _ (if stop.toNat ≤ code.length then _ else _) _
  by_cases hle : 4 ≤ (code.drop place.toNat).length
  · have hstopLe : stop.toNat ≤ code.length := by
      rw [List.length_drop] at hle
      omega
    rw [if_pos hle, if_pos hstopLe]
    exact Mirrors.ok rfl
  · have hstopLt : ¬ stop.toNat ≤ code.length := by
      rw [List.length_drop] at hle
      omega
    rw [if_neg hle, if_neg hstopLt]
    exact Mirrors.malformed

/-- The operands of a switch start behind the padding. -/
theorem switchOperands_eq_ok (pc : UInt64) (hbound : pc.toNat + 4 < 2 ^ 64) :
    ∃ operands, switchOperands pc = .ok operands ∧
      operands.toNat = pc.toNat + 1 + switchPadding pc.toNat := by
  obtain ⟨next, hnext, hvalue⟩ : ∃ next, addWords pc 4 = .ok next ∧
      next.toNat = pc.toNat + 4 := addWords_eq_ok rfl rfl hbound
  refine ⟨next &&& ~~~3, ?_, ?_⟩
  · unfold switchOperands
    rw [hnext]
    rfl
  · rw [toNat_land_not_three, hvalue]
    unfold switchPadding
    omega

/-- There are up to as many keys as there are words of 32 bits, which is too many for such a word
but not for one of 64 bits. -/
theorem keyCount_eq_ok {low high : Int32} (h : low ≤ high) :
    ∃ count, keyCount low high = .ok count ∧
      count.toNat = (high.toInt - low.toInt + 1).toNat ∧ count.toNat ≤ 2 ^ 32 := by
  have hle := Int32.le_iff_toInt_le.1 h
  have hlow := Int32.le_toInt low
  have hhigh := Int32.toInt_lt high
  obtain ⟨span, hspan, hspanValue⟩ :
      ∃ span, signedWord (high.toInt64.toInt - low.toInt64.toInt) = .ok span ∧
        span.toInt = high.toInt - low.toInt := by
    rw [Int32.toInt_toInt64, Int32.toInt_toInt64]
    exact signedWord_eq_ok (by omega)
  obtain ⟨count, hcount, hcountValue⟩ : ∃ count, signedWord (span.toInt + 1) = .ok count ∧
      count.toInt = span.toInt + 1 := signedWord_eq_ok (by omega)
  have hunsigned : count.toUInt64.toNat = count.toInt.toNat := toNat_toUInt64 (by omega)
  refine ⟨count.toUInt64, ?_, ?_, ?_⟩
  · unfold keyCount
    rw [hspan]
    show (signedWord (span.toInt + 1) >>= fun count => _) = _
    rw [hcount]
    rfl
  · rw [hunsigned, hcountValue, hspanValue]
  · omega

theorem operandCount_le {opcode : UInt8} {count : Nat} (h : operandCount opcode = some count) :
    count ≤ 4 := by
  unfold operandCount at h
  split_ifs at h <;> cases h <;> decide

theorem count_le_of_fixed {count : Nat} (h : operandShape opcode = .fixed count) : count ≤ 4 := by
  rw [operandShape_eq, shapeOf] at h
  split_ifs at h
  split at h
  · rename_i hcount
    cases h
    exact operandCount_le hcount
  · cases h

/-- A word is the length of an instruction with a number of operand bytes; it leaves room for the
place of the instruction. -/
def HasLength (word : UInt64) (count : Nat) : Prop := word.toNat = 1 + count ∧ count ≤ 2 ^ 36

/-- The words that make up the length of a switch: what stands before its table, and the table. -/
theorem switchLength_eq_ok {operands entries front size : UInt64} {padding count : Nat}
    (hoperands : operands.toNat = pc.toNat + 1 + padding) (hpadding : padding ≤ 3)
    (hentries : entries.toNat = count) (hcount : count ≤ 2 ^ 32) (hfront : front.toNat ≤ 12)
    (hsize : size.toNat ≤ 8) :
    ∃ length, (do
        let head ← addWords (← subWords operands pc) front
        addWords head (← mulWords entries size)) = .ok length ∧
      HasLength length (padding + front.toNat + count * size.toNat) := by
  have htable : count * size.toNat ≤ 2 ^ 32 * 8 := Nat.mul_le_mul hcount hsize
  have hpc : pc.toNat ≤ pc.toNat + 1 + padding := by omega
  obtain ⟨skipped, hskipped, hskippedValue⟩ := subWords_eq_ok hoperands rfl hpc
  have hskippedEq : skipped.toNat = 1 + padding := by omega
  obtain ⟨head, hhead, hheadValue⟩ := addWords_eq_ok hskippedEq (Eq.refl front.toNat) (by omega)
  obtain ⟨table, htableWord, htableValue⟩ :=
    mulWords_eq_ok hentries (Eq.refl size.toNat) (by omega)
  obtain ⟨length, hlength, hlengthValue⟩ := addWords_eq_ok hheadValue htableValue (by omega)
  refine ⟨length, ?_, by omega, by omega⟩
  rw [hskipped, ok_bind, hhead, ok_bind, htableWord, ok_bind, hlength]

theorem mirrors_tableSwitchLength (hbound : pc.toNat < 2 ^ 63)
    (h : code.drop pc.toNat = opcode :: following) (hshape : operandShape opcode = .tableSwitch) :
    Mirrors HasLength (tableSwitchLength code pc) (operandLength pc.toNat opcode following) := by
  have hpadding : switchPadding pc.toNat ≤ 3 := Nat.sub_le 3 _
  obtain ⟨operands, hoperands, hstart⟩ := switchOperands_eq_ok pc (by omega)
  obtain ⟨lowPlace, hlowPlace, hlowValue⟩ : ∃ place, addWords operands 4 = .ok place ∧
      place.toNat = pc.toNat + 1 + switchPadding pc.toNat + 4 :=
    addWords_eq_ok hstart rfl (by omega)
  obtain ⟨highPlace, hhighPlace, hhighValue⟩ : ∃ place, addWords operands 8 = .ok place ∧
      place.toNat = pc.toNat + 1 + switchPadding pc.toNat + 8 :=
    addWords_eq_ok hstart rfl (by omega)
  unfold tableSwitchLength operandLength
  rw [hshape, hoperands, ok_bind, hlowPlace, ok_bind]
  refine (mirrors_wordAt h (by omega) (by omega)).bind fun low lowValue _ hlow => ?_
  rw [hhighPlace, ok_bind]
  refine (mirrors_wordAt h (by omega) (by omega)).bind fun high highValue _ hhigh => ?_
  subst hlow hhigh
  by_cases hlt : high < low
  · rw [if_pos hlt, if_pos (Int32.lt_iff_toInt_lt.1 hlt)]
    exact Mirrors.malformed
  · have hle := Int32.not_lt.1 hlt
    rw [if_neg hlt, if_neg (Int.not_lt.2 (Int32.le_iff_toInt_le.1 hle))]
    obtain ⟨entries, hentries, hcount, hmany⟩ := keyCount_eq_ok hle
    rw [hcount] at hmany
    rw [hentries, ok_bind]
    exact switchLength_eq_ok hstart hpadding hcount hmany (by decide) (by decide)

theorem mirrors_lookupSwitchLength (hbound : pc.toNat < 2 ^ 63)
    (h : code.drop pc.toNat = opcode :: following) (hshape : operandShape opcode = .lookupSwitch) :
    Mirrors HasLength (lookupSwitchLength code pc) (operandLength pc.toNat opcode following) := by
  have hpadding : switchPadding pc.toNat ≤ 3 := Nat.sub_le 3 _
  obtain ⟨operands, hoperands, hstart⟩ := switchOperands_eq_ok pc (by omega)
  obtain ⟨place, hplace, hplaceValue⟩ : ∃ place, addWords operands 4 = .ok place ∧
      place.toNat = pc.toNat + 1 + switchPadding pc.toNat + 4 :=
    addWords_eq_ok hstart rfl (by omega)
  unfold lookupSwitchLength operandLength
  rw [hshape, hoperands, ok_bind, hplace, ok_bind]
  refine (mirrors_wordAt h (by omega) (by omega)).bind fun pairs value _ hpairs => ?_
  subst hpairs
  by_cases hlt : pairs < 0
  · have hneg : pairs.toInt < 0 := Int32.lt_iff_toInt_lt.1 hlt
    rw [if_pos hlt, if_pos hneg]
    exact Mirrors.malformed
  · have hpos : 0 ≤ pairs.toInt := Int32.le_iff_toInt_le.1 (Int32.not_lt.1 hlt)
    have hmany := Int32.toInt_lt pairs
    rw [if_neg hlt, if_neg (Int.not_lt.2 hpos)]
    have hcount : pairs.toInt64.toUInt64.toNat = pairs.toInt.toNat := by
      rw [toNat_toUInt64, Int32.toInt_toInt64]
      rw [Int32.toInt_toInt64]
      exact hpos
    exact switchLength_eq_ok hstart hpadding hcount (by omega) (by decide) (by decide)

theorem mirrors_wideLength (hbound : pc.toNat < 2 ^ 63)
    (h : code.drop pc.toNat = opcode :: following) (hshape : operandShape opcode = .wide) :
    Mirrors HasLength (wideLength code pc) (operandLength pc.toNat opcode following) := by
  obtain ⟨next, hnext, hvalue⟩ : ∃ next, addWords pc 1 = .ok next ∧ next.toNat = pc.toNat + 1 :=
    addWords_eq_ok rfl rfl (by omega)
  have hbyte : code[next.toNat]? = following[0]? := by
    rw [hvalue]
    exact getElem?_of_drop_eq_cons h 0
  unfold wideLength operandLength
  rw [hshape, hnext, ok_bind, hbyte]
  cases following with
  | nil => exact Mirrors.malformed
  | cons modified rest =>
    refine Mirrors.ok ?_
    by_cases hiinc : modified = iinc
    · rw [if_pos hiinc, if_pos hiinc]
      exact ⟨rfl, by decide⟩
    · rw [if_neg hiinc, if_neg hiinc]
      exact ⟨rfl, by decide⟩

/-- No length overflows: the length of an instruction is computed on words as it is without them. -/
theorem mirrors_instructionLength (hcode : code.length < 2 ^ 63)
    (h : code.drop pc.toNat = opcode :: following) :
    Mirrors HasLength (instructionLength code pc)
      (operandLength pc.toNat opcode following) := by
  have hpc := lt_length_of_drop_eq_cons h
  have hbound := Nat.lt_trans hpc hcode
  unfold instructionLength
  rw [byteAt_of_drop_eq_cons h, ok_bind]
  cases hshape : operandShape opcode with
  | fixed count =>
    have hcount := count_le_of_fixed hshape
    rw [operandLength_eq_fixed hshape]
    refine Mirrors.ok ⟨UInt64.toNat_ofNat_of_lt' ?_, Nat.le_trans hcount (by decide)⟩
    exact Nat.lt_of_le_of_lt (Nat.add_le_add_left hcount 1) (by decide)
  | tableSwitch => exact mirrors_tableSwitchLength hbound h hshape
  | lookupSwitch => exact mirrors_lookupSwitchLength hbound h hshape
  | wide => exact mirrors_wideLength hbound h hshape
  | undefined =>
    unfold operandLength
    rw [hshape]
    rfl

end Lengths

/-! ## Rounds -/

section Rounds

variable {pool : ConstantPool} {lines : List LineNumber} {code following : Bytes} {pc : UInt64}
  {opcode : UInt8}

/-- One instruction of the scan: its number of operand bytes, and the reference that it makes. -/
def scanStep (pool : ConstantPool) (lines : List LineNumber) (pc : Nat) (opcode : UInt8)
    (following : Bytes) : Except Fault (Nat × Option MemberReference) := do
  let length ← operandLength pc opcode following
  if length ≤ following.length then
    return (length, ← referenceAt pool lines pc opcode (following.take length))
  else malformedCode

/-- The scan is a sequence of steps. -/
theorem scanFrom_eq_step (place : Nat) :
    scanFrom pool lines place (opcode :: following) = (do
      let step ← scanStep pool lines place opcode following
      let others ← scanFrom pool lines (place + 1 + step.1) (following.drop step.1)
      return step.2.toList ++ others) := by
  rw [scanFrom_eq, scanStep, bind_assoc]
  refine bind_congr fun length => ?_
  by_cases hle : length ≤ following.length
  · rw [if_pos hle, if_pos hle, bind_assoc]
    rfl
  · rw [if_neg hle, if_neg hle]
    rfl

/-- A step ends within the code. -/
theorem fst_le_of_scanStep {place : Nat} {step : Nat × Option MemberReference}
    (h : scanStep pool lines place opcode following = .ok step) : step.1 ≤ following.length := by
  obtain ⟨length, -, h⟩ := bind_eq_ok_iff.1 h
  split at h
  · rename_i hle
    obtain ⟨here, -, h⟩ := bind_eq_ok_iff.1 h
    cases h
    exact hle
  · cases h

/-- The pool index of a reference is read off the two bytes behind the opcode, which are there. -/
theorem exists_index_bytes (h : code.drop pc.toNat = opcode :: following) {kind : ReferenceKind}
    {length : Nat} (hkind : ReferenceKind.ofOpcode? opcode = some kind)
    (hlength : operandLength pc.toNat opcode following = .ok length)
    (hle : length ≤ following.length) :
    ∃ high low, code[pc.toNat + 1]? = some high ∧ code[pc.toNat + 2]? = some low ∧
      (following.take length).take 2 = [high, low] := by
  have htwo : 2 ≤ length := by
    rw [ofOpcode?_eq_some_iff.1 hkind] at hlength
    rcases operandCount_opcode kind with hcount | hcount <;>
      (rw [operandLength_of_plain hcount] at hlength; cases hlength; decide)
  have hhigh := getElem?_of_drop_eq_cons h 0
  have hlow := getElem?_of_drop_eq_cons h 1
  have hthere := Nat.le_trans htwo hle
  rcases following with _ | ⟨high, _ | ⟨low, rest⟩⟩
  · exact absurd hthere (Nat.not_succ_le_zero 1)
  · exact absurd hthere (Nat.not_succ_le_self 1)
  · refine ⟨high, low, hhigh, hlow, ?_⟩
    rw [List.take_take, Nat.min_eq_left htwo]
    rfl

/-- A round does what a step does. -/
theorem mirrors_scanRound (hcode : code.length < 2 ^ 63)
    (h : code.drop pc.toNat = opcode :: following) (found : List MemberReference) :
    Mirrors (fun s step => s.pc.toNat = pc.toNat + 1 + step.1 ∧
        s.found = found ++ step.2.toList.map MemberReference.stored)
      (scanRound pool lines code ⟨pc, found⟩) (scanStep pool lines pc.toNat opcode following) := by
  have hpc := lt_length_of_drop_eq_cons h
  have hlengths := congrArg List.length h
  rw [List.length_drop, List.length_cons] at hlengths
  unfold scanRound scanStep
  rw [byteAt_of_drop_eq_cons h, ok_bind]
  refine (mirrors_instructionLength hcode h).bind fun word length hlength hword => ?_
  obtain ⟨hword, hroom⟩ := hword
  obtain ⟨next, hnext, hnextValue⟩ := addWords_eq_ok (Eq.refl pc.toNat) hword (by omega)
  rw [hnext, ok_bind]
  by_cases hle : length ≤ following.length
  · have hin : ¬ code.length < next.toNat := by omega
    rw [if_neg hin, if_pos hle]
    unfold referenceAt
    cases hkind : ReferenceKind.ofOpcode? opcode with
    | none =>
      refine Mirrors.ok ⟨?_, ?_⟩
      · rw [hnextValue, Nat.add_assoc]
      · exact (List.append_nil found).symm
    | some kind =>
      obtain ⟨high, low, hhigh, hlow, hindex⟩ := exists_index_bytes h hkind hlength hle
      obtain ⟨first, hfirst, hfirstValue⟩ : ∃ place, addWords pc 1 = .ok place ∧
          place.toNat = pc.toNat + 1 := addWords_eq_ok rfl rfl (by omega)
      obtain ⟨second, hsecond, hsecondValue⟩ : ∃ place, addWords pc 2 = .ok place ∧
          place.toNat = pc.toNat + 2 := addWords_eq_ok rfl rfl (by omega)
      rw [← hfirstValue] at hhigh
      rw [← hsecondValue] at hlow
      rw [hindex]
      simp only [hfirst, ok_bind, byteAt_eq_ok hhigh, hsecond, byteAt_eq_ok hlow]
      generalize UInt16.ofNat (ofBigEndian [high, low]) = index
      cases memberReference pool lines pc.toNat kind index with
      | error fault => exact rfl
      | ok r => exact Mirrors.ok ⟨by rw [hnextValue, Nat.add_assoc], rfl⟩
  · have hout : code.length < next.toNat := by omega
    rw [if_pos hout, if_neg hle]
    exact Mirrors.malformed

/-- The rounds from a place on do what the scan from this place on does, if there are as many of
them as bytes are left. -/
theorem mirrors_scanRounds (hcode : code.length < 2 ^ 63) (rounds : Nat) (pc : UInt64)
    (found : List MemberReference) (hpc : pc.toNat ≤ code.length)
    (hrounds : code.length ≤ pc.toNat + rounds) :
    Mirrors (fun result references => result = found ++ references.map MemberReference.stored)
      (scanRounds pool lines code rounds ⟨pc, found⟩)
      (scanFrom pool lines pc.toNat (code.drop pc.toNat)) := by
  induction rounds generalizing pc found with
  | zero =>
    have hend : ¬ pc.toNat < code.length := Nat.not_lt.2 hrounds
    rw [List.drop_of_length_le (Nat.not_lt.1 hend), scanFrom, scanRounds, if_neg hend]
    exact Mirrors.ok (List.append_nil found).symm
  | succ rounds ih =>
    by_cases hlt : pc.toNat < code.length
    · have hat : code.drop pc.toNat = code[pc.toNat] :: code.drop (pc.toNat + 1) :=
        List.drop_eq_getElem_cons hlt
      rw [hat, scanFrom_eq_step, scanRounds, if_pos hlt]
      refine (mirrors_scanRound hcode hat found).bind fun s step hstep hs => ?_
      obtain ⟨next, found'⟩ := s
      obtain ⟨hnext, hfound⟩ := hs
      change next.toNat = pc.toNat + 1 + step.1 at hnext
      change found' = found ++ step.2.toList.map MemberReference.stored at hfound
      -- the next round starts behind the operands, and not behind the end of the code
      have hin := fst_le_of_scanStep hstep
      rw [List.length_drop] at hin
      have hrest := ih next found' (by omega) (by omega)
      rw [hnext, drop_of_drop_eq_cons hat] at hrest
      refine hrest.map_right fun result others hresult => ?_
      rw [hresult, hfound, List.map_append, List.append_assoc]
    · rw [List.drop_of_length_le (Nat.not_lt.1 hlt), scanFrom, scanRounds, if_neg hlt]
      exact Mirrors.ok (List.append_nil found).symm

/-- On machine words, the scan stops for no reason of its own. -/
theorem wordScan_eq (hcode : code.length < 2 ^ 63) :
    wordScan pool lines code =
      ((scanReferences pool lines code).map (List.map MemberReference.stored)).mapError
        Stop.rejected := by
  have hmirrors : Mirrors (fun result references => result = references.map MemberReference.stored)
      (wordScan pool lines code) (scanReferences pool lines code) :=
    mirrors_scanRounds hcode code.length 0 [] (Nat.zero_le _) (Nat.le_add_left _ _)
  cases hscan : scanReferences pool lines code with
  | error fault =>
    rw [hscan] at hmirrors
    exact hmirrors
  | ok references =>
    rw [hscan] at hmirrors
    obtain ⟨result, hresult, rfl⟩ := hmirrors
    exact hresult

end Rounds

/-- The scan finds exactly the references in a code body. On words of 64 bits it does so for every
code array, whose length is always a number that a signed word can hold: it comes to an end, no byte
is read outside of the code and no length overflows, so it returns the references or rejects the
code. It succeeds exactly if the code splits into instructions and each of them that refers to a
member resolves; and then it returns one reference for each of these instructions, in their order,
with what it leads to, its place and its line. -/
theorem scan_exact (pool : ConstantPool) (lines : List LineNumber) (code : Bytes)
    (hcode : code.length < 2 ^ 63) :
    (wordScan pool lines code =
      ((scanReferences pool lines code).map (List.map MemberReference.stored)).mapError
        Stop.rejected) ∧
    ((∃ references, scanReferences pool lines code = .ok references) ↔
      ∃ instructions, Splits 0 code instructions ∧
        ∀ i ∈ instructions, i.isReference = true → ∃ kind target, Resolves pool i kind target) ∧
    ∀ instructions references, Splits 0 code instructions →
      (scanReferences pool lines code = .ok references ↔
        List.Forall₂ (Refers pool lines) (instructions.filter PlacedInstruction.isReference)
          references) :=
  ⟨wordScan_eq hcode, exists_scanFrom_iff, fun _ _ => scanFrom_eq_ok_iff⟩

/-- A pool that holds one reference, to a field `A.x` of type `int`. -/
def fieldPool : ConstantPool :=
  ⟨#[none, some (.fieldRef 2 3), some (.classRef 4), some (.nameAndType 5 6), some (.utf8 "A"),
    some (.utf8 "x"), some (.utf8 "I")]⟩

/-- A table switch at 1 with the keys 0 and 1, its operands padded up to 4, and an access to a
static field behind it. -/
def switchCode : Bytes :=
  [0x00, 0xaa, 0, 0, 0, 0, 0, 23, 0, 0, 0, 0, 0, 0, 0, 1, 0, 0, 0, 23, 0, 0, 0, 23, 0xb2, 0, 1]

theorem wordScan_switchCode :
    wordScan fieldPool [⟨0, 7⟩, ⟨24, 9⟩] switchCode =
      .ok [⟨.getStatic, "A", false, "x", "I", [], "int", 24, 9⟩] := by
  decide +kernel

/-- The access behind a switch is found where the table of the switch ends. -/
theorem scan_exact_switchCode :
    switchCode.length < 2 ^ 63 ∧ ∃ references,
      scanReferences fieldPool [⟨0, 7⟩, ⟨24, 9⟩] switchCode = .ok references ∧
      references.map MemberReference.stored =
        [⟨.getStatic, "A", false, "x", "I", [], "int", 24, 9⟩] := by
  have hlength : switchCode.length < 2 ^ 63 := by decide
  have hword := (scan_exact fieldPool [⟨0, 7⟩, ⟨24, 9⟩] switchCode hlength).1
  rw [wordScan_switchCode] at hword
  refine ⟨hlength, ?_⟩
  cases hscan : scanReferences fieldPool [⟨0, 7⟩, ⟨24, 9⟩] switchCode with
  | error fault =>
    rw [hscan] at hword
    cases hword
  | ok references =>
    rw [hscan] at hword
    exact ⟨references, rfl, (Except.ok.inj hword).symm⟩

end TypeAtlas.ClassFile
