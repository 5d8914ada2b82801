import Mathlib.Data.List.Forall2
import TypeAtlas.ClassFile.Basic

/-!
# What readers do with what was written

`Reads bytes m value` says that the reader `m` takes exactly `bytes` off the front of any input and
returns `value`. A reader built from others reads the bytes of its parts one after another
(`Reads.bind`), so what a writer puts together is followed piece by piece. `ReadsAll` says the same
of a reader that requires the input to end.
-/

set_option autoImplicit false

namespace TypeAtlas

/-- A word is written as its upper bytes and its lower bytes. -/
theorem toBigEndian_add (upper lower n : Nat) :
    toBigEndian (upper + lower) n =
      toBigEndian upper (n / Nat.pow 256 lower) ++ toBigEndian lower n := by
  induction lower generalizing n with
  | zero =>
    have hone : n / Nat.pow 256 0 = n := Nat.div_one n
    rw [hone, toBigEndian, List.append_nil, Nat.add_zero]
  | succ lower ih =>
    have hpow : Nat.pow 256 (lower + 1) = 256 * Nat.pow 256 lower := Nat.mul_comm _ _
    rw [← Nat.add_assoc, toBigEndian, ih, toBigEndian, hpow, Nat.div_div_eq_div_mul,
      List.append_assoc]

/-- A count that fits into two bytes is not cut off. -/
theorem toNat_ofNat_of_le {n : Nat} (h : n ≤ 65535) : (UInt16.ofNat n).toNat = n :=
  UInt16.toNat_ofNat_of_lt' (Nat.lt_succ_of_le h)

/-- A byte is the number that it writes. -/
theorem ofNat_ofBigEndian_singleton (b : UInt8) : UInt8.ofNat (ofBigEndian [b]) = b := by
  show UInt8.ofNat (0 * 256 + b.toNat) = b
  rw [Nat.zero_mul, Nat.zero_add, UInt8.ofNat_toNat]

/-- A string is split exactly if its front is of the given length. -/
theorem splitExactly_eq_some_iff {n : Nat} {bytes front rest : Bytes} :
    splitExactly n bytes = some (front, rest) ↔ bytes = front ++ rest ∧ front.length = n := by
  rw [splitExactly_eq]
  constructor
  · intro h
    split at h
    · rename_i hle
      cases h
      exact ⟨(List.take_append_drop n bytes).symm, List.length_take_of_le hle⟩
    · cases h
  · rintro ⟨rfl, rfl⟩
    rw [List.length_append, if_pos (Nat.le_add_right _ _), List.take_left, List.drop_left]

@[simp] theorem length_word16 (n : UInt16) : (word16 n).length = 2 := length_toBigEndian 2 _

@[simp] theorem length_word32 (n : UInt32) : (word32 n).length = 4 := length_toBigEndian 4 _

@[simp] theorem length_count16 (n : Nat) : (count16 n).length = 2 := length_toBigEndian 2 _

@[simp] theorem length_count32 (n : Nat) : (count32 n).length = 4 := length_toBigEndian 4 _

namespace ClassFile

section Outcomes

variable {ε α β : Type}

/-- A bind succeeds exactly if both of its steps do. -/
theorem bind_eq_ok_iff {x : Except ε α} {f : α → Except ε β} {b : β} :
    (x >>= f) = .ok b ↔ ∃ a, x = .ok a ∧ f a = .ok b := by
  cases x with
  | error e =>
    constructor
    · intro h
      cases h
    · rintro ⟨a, ha, -⟩
      cases ha
  | ok a =>
    constructor
    · exact fun h => ⟨a, rfl, h⟩
    · rintro ⟨a', ha, h⟩
      cases ha
      exact h

/-- A bind fails exactly if its first step does or, after it, the second one. -/
theorem bind_eq_error_iff {x : Except ε α} {f : α → Except ε β} {e : ε} :
    (x >>= f) = .error e ↔ x = .error e ∨ ∃ a, x = .ok a ∧ f a = .error e := by
  cases x with
  | error e' =>
    constructor
    · intro h
      cases h
      exact Or.inl rfl
    · rintro (h | ⟨a, ha, -⟩)
      · cases h
        rfl
      · cases ha
  | ok a =>
    constructor
    · exact fun h => Or.inr ⟨a, rfl, h⟩
    · rintro (h | ⟨a', ha, h⟩)
      · cases h
      · cases ha
        exact h

theorem map_eq_ok_iff {x : Except ε α} {f : α → β} {b : β} :
    x.map f = .ok b ↔ ∃ a, x = .ok a ∧ f a = b := by
  cases x with
  | error e =>
    constructor
    · intro h
      cases h
    · rintro ⟨a, ha, -⟩
      cases ha
  | ok a =>
    constructor
    · intro h
      exact ⟨a, rfl, Except.ok.inj h⟩
    · rintro ⟨a', ha, rfl⟩
      cases ha
      rfl

end Outcomes

section Reads

variable {ε α β : Type} {a : α} {b : β}

/-- A reader takes exactly these bytes off the front of any input, and returns this value. -/
def Reads (bytes : Bytes) (m : StateT Cursor (Except ε) α) (value : α) : Prop :=
  ∀ offset rest, m ⟨offset, bytes ++ rest⟩ = .ok (value, ⟨offset + bytes.length, rest⟩)

/-- A reader accepts exactly these bytes as the end of an input, and returns this value. -/
def ReadsAll (bytes : Bytes) (m : StateT Cursor (Except ε) α) (value : α) : Prop :=
  ∀ offset, ∃ cursor, m ⟨offset, bytes⟩ = .ok (value, cursor)

/-! ## Sequences of readers -/

theorem Reads.pure : Reads [] (pure a : StateT Cursor (Except ε) α) a := fun _ _ => rfl

theorem Reads.bind {m : StateT Cursor (Except ε) α} {f : α → StateT Cursor (Except ε) β}
    {front back : Bytes} (hm : Reads front m a) (hf : Reads back (f a) b) :
    Reads (front ++ back) (m >>= f) b := by
  intro offset rest
  show (m ⟨offset, front ++ back ++ rest⟩ >>= fun p => f p.1 p.2) = _
  rw [List.append_assoc, hm offset (back ++ rest)]
  show f a ⟨offset + front.length, back ++ rest⟩ = _
  rw [hf, List.length_append, Nat.add_assoc]

/-- What follows the reader at hand reads nothing. -/
theorem Reads.bind_nil {m : StateT Cursor (Except ε) α} {f : α → StateT Cursor (Except ε) β}
    {bytes : Bytes} (hm : Reads bytes m a) (hf : Reads [] (f a) b) : Reads bytes (m >>= f) b := by
  rw [← List.append_nil bytes]
  exact hm.bind hf

/-- The reader at hand reads nothing. -/
theorem Reads.nil_bind {m : StateT Cursor (Except ε) α} {f : α → StateT Cursor (Except ε) β}
    {bytes : Bytes} (hm : Reads [] m a) (hf : Reads bytes (f a) b) : Reads bytes (m >>= f) b := by
  rw [← List.nil_append bytes]
  exact hm.bind hf

theorem Reads.map {m : StateT Cursor (Except ε) α} {bytes : Bytes} (f : α → β)
    (hm : Reads bytes m a) : Reads bytes (f <$> m) (f a) := by
  rw [map_eq_pure_bind]
  exact hm.bind_nil Reads.pure

/-- A reader may look at its position. -/
theorem Reads.get_bind {f : Cursor → StateT Cursor (Except ε) β} {bytes : Bytes}
    (hf : ∀ cursor, Reads bytes (f cursor) b) : Reads bytes (get >>= f) b :=
  fun offset rest => hf ⟨offset, bytes ++ rest⟩ offset rest

theorem Reads.bind_all {m : StateT Cursor (Except ε) α} {f : α → StateT Cursor (Except ε) β}
    {front back : Bytes} (hm : Reads front m a) (hf : ReadsAll back (f a) b) :
    ReadsAll (front ++ back) (m >>= f) b := by
  intro offset
  obtain ⟨cursor, hcursor⟩ := hf (offset + front.length)
  refine ⟨cursor, ?_⟩
  show (m ⟨offset, front ++ back⟩ >>= fun p => f p.1 p.2) = _
  rw [hm offset back]
  exact hcursor

/-- What is done with the value does not matter for the end. -/
theorem ReadsAll.bind_pure {m : StateT Cursor (Except ε) α} {bytes : Bytes}
    (h : ReadsAll bytes m a) (f : α → β) :
    ReadsAll bytes (do let value ← m; Pure.pure (f value)) (f a) := by
  intro offset
  obtain ⟨cursor, hcursor⟩ := h offset
  refine ⟨cursor, ?_⟩
  show (m ⟨offset, bytes⟩ >>= fun p => .ok (f p.1, p.2)) = _
  rw [hcursor]
  rfl

/-! ## Readers of class files -/

theorem Reads.lift_bind {result : Except Fault α} {f : α → Reader β} {bytes : Bytes}
    (h : result = .ok a) (hf : Reads bytes (f a) b) :
    Reads bytes (Reader.lift result >>= f) b := by
  subst h
  exact Reads.nil_bind (fun _ _ => rfl) hf

theorem Reads.lift {result : Except Fault α} (h : result = .ok a) :
    Reads [] (Reader.lift result) a := by
  subst h
  exact fun _ _ => rfl

theorem Reads.take (bytes : Bytes) : Reads bytes (Reader.take bytes.length) bytes := by
  intro offset rest
  unfold Reader.take
  have hle : bytes.length ≤ (bytes ++ rest).length := by
    rw [List.length_append]
    exact Nat.le_add_right _ _
  rw [splitExactly_eq, if_pos hle, List.take_left, List.drop_left]

theorem Reads.number (width n : Nat) :
    Reads (toBigEndian width n) (Reader.number width) (n % Nat.pow 256 width) := by
  have h := (Reads.take (toBigEndian width n)).map ofBigEndian
  rw [ofBigEndian_toBigEndian, length_toBigEndian] at h
  exact h

theorem Reads.u1 (n : UInt8) : Reads [n] Reader.u1 n := by
  have h := (Reads.take [n]).map fun bytes => UInt8.ofNat (ofBigEndian bytes)
  rw [ofNat_ofBigEndian_singleton] at h
  exact h

theorem Reads.u2 (n : UInt16) : Reads (word16 n) Reader.u2 n := by
  have h := (Reads.number 2 n.toNat).map UInt16.ofNat
  rw [Nat.mod_eq_of_lt n.toNat_lt, UInt16.ofNat_toNat] at h
  exact h

theorem Reads.u4 (n : UInt32) : Reads (word32 n) Reader.u4 n := by
  have h := (Reads.number 4 n.toNat).map UInt32.ofNat
  rw [Nat.mod_eq_of_lt n.toNat_lt, UInt32.ofNat_toNat] at h
  exact h

theorem Reads.u8 (n : UInt64) : Reads (word64 n) Reader.u8 n := by
  have hbound := n.toNat_lt
  have hpow : Nat.pow 256 4 = 0x100000000 := rfl
  have hsplit : word64 n =
      toBigEndian 4 (n.toNat / 0x100000000) ++ toBigEndian 4 n.toNat :=
    toBigEndian_add 4 4 n.toNat
  -- the two halves that are read make up the number again
  have hvalue : UInt64.ofNat (n.toNat / 0x100000000 % Nat.pow 256 4 * 0x100000000 +
      n.toNat % Nat.pow 256 4) = n := by
    rw [hpow]
    have hnumber : n.toNat / 0x100000000 % 0x100000000 * 0x100000000 + n.toNat % 0x100000000 =
        n.toNat := by
      omega
    rw [hnumber, UInt64.ofNat_toNat]
  have h : Reads (toBigEndian 4 (n.toNat / 0x100000000) ++ toBigEndian 4 n.toNat) Reader.u8 _ :=
    (Reads.number 4 _).bind ((Reads.number 4 _).bind_nil Reads.pure)
  rw [hvalue, ← hsplit] at h
  exact h

/-- A byte, then the rest. -/
theorem Reads.u1_bind {n : UInt8} {f : UInt8 → Reader β} {bytes : Bytes}
    (hf : Reads bytes (f n) b) : Reads (n :: bytes) (Reader.u1 >>= f) b :=
  (Reads.u1 n).bind hf

/-- The index of something in a pool, then the rest. -/
theorem Reads.index_bind {n : UInt16} {look : UInt16 → Except Fault α} {f : α → Reader β}
    {bytes : Bytes} (h : look n = .ok a) (hf : Reads bytes (f a) b) :
    Reads (word16 n ++ bytes) (do f (← Reader.lift (look (← Reader.u2)))) b :=
  (Reads.u2 n).bind (Reads.lift_bind h hf)

theorem Reads.index {n : UInt16} {look : UInt16 → Except Fault α} (h : look n = .ok a) :
    Reads (word16 n) (do Reader.lift (look (← Reader.u2))) a :=
  (Reads.u2 n).bind_nil (Reads.lift h)

/-! ## Tables -/

theorem Reads.times {item : Reader α} {bodies : List Bytes} {values : List α}
    (h : List.Forall₂ (fun body value => Reads body item value) bodies values) :
    Reads bodies.flatten (Reader.times values.length item) values := by
  induction h with
  | nil => exact Reads.pure
  | cons hfirst _ ih => exact hfirst.bind (ih.bind_nil Reads.pure)

/-- A table is its length, if that fits into two bytes, and its entries. -/
theorem Reads.table {item : Reader α} {count : Nat} {body : Bytes} {values : List α}
    (hcount : count ≤ 65535) (h : Reads body (Reader.times count item) values) :
    Reads (count16 count ++ body) (Reader.table item) values := by
  apply (Reads.u2 _).bind
  rw [toNat_ofNat_of_le hcount]
  exact h

/-! ## Ends -/

theorem enclosed_eq_ok {content : Reader α} {body : Bytes} (h : Reads body content a)
    (start : Nat) : Reader.enclosed start body content = .ok a := by
  have hrun := h start []
  rw [List.append_nil] at hrun
  unfold Reader.enclosed
  rw [hrun]
  rfl

theorem Reads.expectEnd {m : Reader α} {f : α → β} {bytes : Bytes} (hm : Reads bytes m a) :
    ReadsAll bytes (do let value ← m; Reader.expectEnd; Pure.pure (f value)) (f a) := by
  -- the value is read off the whole input, so nothing is left at its end
  rw [← List.append_nil bytes]
  exact hm.bind_all fun offset => ⟨⟨offset, []⟩, rfl⟩

theorem Reads.inSection {content : Reader α} {bytes : Bytes} (h : Reads bytes content a)
    (part : Section) : Reads bytes (content.inSection part) a := by
  intro offset rest
  unfold Reader.inSection
  rw [h]

theorem ReadsAll.inSection {content : Reader α} {bytes : Bytes} (h : ReadsAll bytes content a)
    (part : Section) : ReadsAll bytes (content.inSection part) a := by
  intro offset
  obtain ⟨cursor, hcursor⟩ := h offset
  refine ⟨cursor, ?_⟩
  unfold Reader.inSection
  rw [hcursor]

end Reads

/-! ## Whole files -/

/-- A file is parsed exactly if it is read from its start. -/
theorem parse_eq_ok_iff {bytes : Bytes} {file : ClassFile} :
    parse bytes = .ok file ↔ ∃ rest, read ⟨0, bytes⟩ = .ok (file, rest) := by
  show (read ⟨0, bytes⟩).map Prod.fst = _ ↔ _
  cases read ⟨0, bytes⟩ with
  | error e =>
    constructor
    · intro h
      cases h
    · rintro ⟨rest, h⟩
      cases h
  | ok result =>
    constructor
    · intro h
      cases h
      exact ⟨result.2, rfl⟩
    · rintro ⟨rest, h⟩
      cases h
      rfl

end ClassFile

end TypeAtlas
