import TypeAtlas.ClassFile.Basic
import TypeAtlas.Proofs.ClassFile.Reads

/-!
# Where reading stops

A class file says itself where it ends. What a reader takes off the front of an input does not
depend on what follows, and on anything shorter it asks for the bytes that are missing
(`Delimited`). The readers of a class file are all of this kind, up to the one that requires the
end. So no file that is accepted begins another one (`parse_self_delimiting`): if it is cut off,
the input ends unexpectedly, and if it is continued, the rest is left over.
-/

set_option autoImplicit false

namespace TypeAtlas.ClassFile

/-! ## Readers that stop by themselves -/

section Delimited

variable {ε α β : Type} {cause : ε → Fault}

/-- A reader of `front` fails because the input ends there, and asks for some of the missing
bytes. -/
def EndsShort (cause : ε → Fault) (offset : Nat) (front missing : Bytes)
    (result : Except ε (α × Cursor)) : Prop :=
  ∃ e place needed, result = .error e ∧ cause e = .unexpectedEnd place needed ∧
    place ≤ offset + front.length ∧ 1 ≤ needed ∧ needed ≤ missing.length

/-- If the input ends before these bytes do, a reader fails for that reason. -/
def NeedsAll (cause : ε → Fault) (offset : Nat) (m : StateT Cursor (Except ε) α)
    (used : Bytes) : Prop :=
  ∀ front missing, used = front ++ missing → missing ≠ [] →
    EndsShort cause offset front missing (m ⟨offset, front⟩)

/-- At an offset, a reader takes these bytes and returns this value, whatever follows the bytes,
and needs all of them. -/
structure Takes (cause : ε → Fault) (offset : Nat) (m : StateT Cursor (Except ε) α) (used : Bytes)
    (value : α) : Prop where
  returns : ∀ rest, m ⟨offset, used ++ rest⟩ = .ok (value, ⟨offset + used.length, rest⟩)
  needsAll : NeedsAll cause offset m used

/-- The bytes that a reader takes tell it where to stop. -/
def Delimited (cause : ε → Fault) (m : StateT Cursor (Except ε) α) : Prop :=
  ∀ offset input value rest, m ⟨offset, input⟩ = .ok (value, rest) →
    ∃ used tail, input = used ++ tail ∧ rest = ⟨offset + used.length, tail⟩ ∧
      Takes cause offset m used value

/-- A cut through two strings falls into the first one or leaves it whole. -/
theorem append_eq_append_cases {used used' front missing : Bytes}
    (h : used ++ used' = front ++ missing) :
    (∃ missing', missing' ≠ [] ∧ used = front ++ missing' ∧ missing = missing' ++ used') ∨
      ∃ front', front = used ++ front' ∧ used' = front' ++ missing := by
  rcases List.append_eq_append_iff.1 h with ⟨front', hfront, hused'⟩ | ⟨missing', hused, hmissing⟩
  · exact Or.inr ⟨front', hfront, hused'⟩
  · cases missing' with
    -- the cut falls between the two strings
    | nil =>
      refine Or.inr ⟨[], ?_, ?_⟩
      · rw [hused, List.append_nil, List.append_nil]
      · rw [hmissing]
        rfl
    | cons b rest => exact Or.inl ⟨b :: rest, List.cons_ne_nil b rest, hused, hmissing⟩

/-- A reader that reads nothing takes no bytes. -/
theorem Takes.of_nil {offset : Nat} {m : StateT Cursor (Except ε) α} {value : α}
    (h : ∀ rest, m ⟨offset, rest⟩ = .ok (value, ⟨offset, rest⟩)) :
    Takes cause offset m [] value where
  returns := h
  needsAll _ _ hused hmissing := absurd (List.append_eq_nil_iff.1 hused.symm).2 hmissing

/-- What would be done with the value does not matter for the bytes that are needed. -/
theorem NeedsAll.bind_of_first {offset : Nat} {m : StateT Cursor (Except ε) α}
    {used : Bytes} (h : NeedsAll cause offset m used) (f : α → StateT Cursor (Except ε) β) :
    NeedsAll cause offset (m >>= f) used := by
  intro front missing hused hmissing
  obtain ⟨e, place, needed, he, hbounds⟩ := h front missing hused hmissing
  refine ⟨e, place, needed, ?_, hbounds⟩
  show (m ⟨offset, front⟩ >>= fun p => f p.1 p.2) = _
  rw [he]
  rfl

/-- Of two readers in sequence, the first one fails on a cut into its bytes, and the second one on
a cut behind them. -/
theorem NeedsAll.bind {offset : Nat} {m : StateT Cursor (Except ε) α}
    {f : α → StateT Cursor (Except ε) β} {used used' : Bytes} {a : α}
    (hm : Takes cause offset m used a) (hf : NeedsAll cause (offset + used.length) (f a) used') :
    NeedsAll cause offset (m >>= f) (used ++ used') := by
  intro front missing hused hmissing
  show EndsShort cause offset front missing (m ⟨offset, front⟩ >>= fun p => f p.1 p.2)
  rcases append_eq_append_cases hused with ⟨missing', hne, rfl, rfl⟩ | ⟨front', rfl, rfl⟩
  · obtain ⟨e, place, needed, he, hcause, hplace, hpos, hle⟩ := hm.needsAll front missing' rfl hne
    refine ⟨e, place, needed, ?_, hcause, hplace, hpos, ?_⟩
    · rw [he]
      rfl
    · rw [List.length_append]
      exact Nat.le_add_right_of_le hle
  · obtain ⟨e, place, needed, he, hcause, hplace, hpos, hle⟩ := hf front' missing rfl hmissing
    refine ⟨e, place, needed, ?_, hcause, ?_, hpos, hle⟩
    · rw [hm.returns]
      exact he
    · rw [List.length_append, ← Nat.add_assoc]
      exact hplace

/-- Two readers in sequence take the bytes of both. -/
theorem Takes.bind {offset : Nat} {m : StateT Cursor (Except ε) α}
    {f : α → StateT Cursor (Except ε) β} {used used' : Bytes} {a : α} {b : β}
    (hm : Takes cause offset m used a) (hf : Takes cause (offset + used.length) (f a) used' b) :
    Takes cause offset (m >>= f) (used ++ used') b where
  returns rest := by
    show (m ⟨offset, used ++ used' ++ rest⟩ >>= fun p => f p.1 p.2) = _
    rw [List.append_assoc, hm.returns]
    show f a ⟨offset + used.length, used' ++ rest⟩ = _
    rw [hf.returns, List.length_append, Nat.add_assoc]
  needsAll := NeedsAll.bind hm hf.needsAll

theorem Delimited.pure (value : α) :
    Delimited cause (pure value : StateT Cursor (Except ε) α) := by
  intro offset input result rest h
  cases h
  exact ⟨[], input, rfl, rfl, Takes.of_nil fun _ => rfl⟩

theorem Delimited.bind {m : StateT Cursor (Except ε) α} {f : α → StateT Cursor (Except ε) β}
    (hm : Delimited cause m) (hf : ∀ value, Delimited cause (f value)) :
    Delimited cause (m >>= f) := by
  intro offset input result rest h
  obtain ⟨⟨value, middle⟩, hfirst, hsecond⟩ := bind_eq_ok_iff.1 h
  obtain ⟨used, tail, rfl, rfl, htakes⟩ := hm offset input value middle hfirst
  -- the second reader starts where the first one stops
  obtain ⟨used', tail', rfl, rfl, htakes'⟩ := hf value _ tail result rest hsecond
  refine ⟨used ++ used', tail', ?_, ?_, htakes.bind htakes'⟩
  · rw [List.append_assoc]
  · rw [List.length_append, Nat.add_assoc]

theorem Delimited.map {m : StateT Cursor (Except ε) α} (hm : Delimited cause m) (f : α → β) :
    Delimited cause (f <$> m) := by
  rw [map_eq_pure_bind]
  exact hm.bind fun value => Delimited.pure (f value)

/-- A reader may look at its position, but not at the input that it has not taken. -/
theorem Delimited.get_bind {f : Cursor → StateT Cursor (Except ε) β}
    (hoffset : ∀ offset input input', f ⟨offset, input⟩ = f ⟨offset, input'⟩)
    (hf : ∀ cursor, Delimited cause (f cursor)) : Delimited cause (get >>= f) := by
  intro offset input result rest h
  change f ⟨offset, input⟩ ⟨offset, input⟩ = .ok (result, rest) at h
  obtain ⟨used, tail, hinput, hrest, htakes⟩ := hf ⟨offset, input⟩ offset input result rest h
  refine ⟨used, tail, hinput, hrest, fun other => ?_, fun front missing hused hmissing => ?_⟩
  · show f ⟨offset, used ++ other⟩ ⟨offset, used ++ other⟩ = _
    rw [hoffset offset _ input]
    exact htakes.returns other
  · show EndsShort cause offset front missing (f ⟨offset, front⟩ ⟨offset, front⟩)
    rw [hoffset offset _ input]
    exact htakes.needsAll front missing hused hmissing

end Delimited

/-! ## Readers of parts of a file -/

section Readers

variable {α : Type}

theorem Delimited.fail (fault : Fault) : Delimited id (Reader.fail fault : Reader α) := by
  intro offset input result rest h
  cases h

theorem Delimited.lift (result : Except Fault α) : Delimited id (Reader.lift result) := by
  intro offset input value rest h
  cases result with
  | error fault => cases h
  | ok value =>
    cases h
    exact ⟨[], input, rfl, rfl, Takes.of_nil fun _ => rfl⟩

/-- What is cut off is asked for, whatever part of it is at hand. -/
theorem Takes.take (offset : Nat) (bytes : Bytes) :
    Takes id offset (Reader.take bytes.length) bytes bytes where
  returns := Reads.take bytes offset
  needsAll front missing hbytes hmissing := by
    have hlength : bytes.length = front.length + missing.length := by
      rw [hbytes, List.length_append]
    have hpos : 0 < missing.length := List.length_pos_iff.2 hmissing
    have hlt : ¬ bytes.length ≤ front.length := by omega
    refine ⟨_, offset, bytes.length - front.length, ?_, rfl, Nat.le_add_right _ _, ?_, ?_⟩
    · rw [Reader.take, splitExactly_eq, if_neg hlt]
    · omega
    · omega

theorem Delimited.take (n : Nat) : Delimited id (Reader.take n) := by
  intro offset input value rest h
  rw [Reader.take, splitExactly_eq] at h
  by_cases hle : n ≤ input.length
  · rw [if_pos hle] at h
    cases h
    have htakes := Takes.take offset (input.take n)
    rw [List.length_take_of_le hle] at htakes
    refine ⟨input.take n, input.drop n, (List.take_append_drop n input).symm, ?_, htakes⟩
    rw [List.length_take_of_le hle]
  · rw [if_neg hle] at h
    cases h

theorem Delimited.number (n : Nat) : Delimited id (Reader.number n) :=
  (Delimited.take n).map ofBigEndian

theorem Delimited.u1 : Delimited id Reader.u1 := (Delimited.number 1).map UInt8.ofNat

theorem Delimited.u2 : Delimited id Reader.u2 := (Delimited.number 2).map UInt16.ofNat

theorem Delimited.u4 : Delimited id Reader.u4 := (Delimited.number 4).map UInt32.ofNat

theorem Delimited.u8 : Delimited id Reader.u8 :=
  (Delimited.number 4).bind fun _ => (Delimited.number 4).bind fun _ => Delimited.pure _

/-- An index, and what it leads to. -/
theorem Delimited.index (look : UInt16 → Except Fault α) :
    Delimited id (do Reader.lift (look (← Reader.u2))) :=
  Delimited.u2.bind fun index => Delimited.lift (look index)

theorem Delimited.times {item : Reader α} (h : Delimited id item) (n : Nat) :
    Delimited id (Reader.times n item) := by
  induction n with
  | zero => exact Delimited.pure []
  | succ n ih => exact h.bind fun _ => ih.bind fun _ => Delimited.pure _

theorem Delimited.table {item : Reader α} (h : Delimited id item) :
    Delimited id (Reader.table item) :=
  Delimited.u2.bind fun count => h.times count.toNat

theorem inSection_eq_ok_iff {content : Reader α} {part : Section} {cursor : Cursor}
    {result : α × Cursor} :
    content.inSection part cursor = .ok result ↔ content cursor = .ok result := by
  unfold Reader.inSection
  cases content cursor with
  | error fault => simp only [reduceCtorEq]
  | ok result' => simp only [Except.ok.injEq]

theorem inSection_eq_error {content : Reader α} {part : Section} {cursor : Cursor} {fault : Fault}
    (h : content cursor = .error fault) :
    content.inSection part cursor = .error ⟨fault, part, cursor.offset⟩ := by
  unfold Reader.inSection
  rw [h]

theorem NeedsAll.inSection {content : Reader α} {offset : Nat} {used : Bytes}
    (h : NeedsAll id offset content used) (part : Section) :
    NeedsAll Rejection.fault offset (content.inSection part) used := by
  intro front missing hused hmissing
  obtain ⟨fault, place, needed, hfault, hbounds⟩ := h front missing hused hmissing
  exact ⟨_, place, needed, inSection_eq_error hfault, hbounds⟩

theorem Delimited.inSection {content : Reader α} (h : Delimited id content) (part : Section) :
    Delimited Rejection.fault (content.inSection part) := by
  intro offset input value rest hrun
  obtain ⟨used, tail, hinput, hrest, htakes⟩ :=
    h offset input value rest (inSection_eq_ok_iff.1 hrun)
  refine ⟨used, tail, hinput, hrest, fun other => ?_, htakes.needsAll.inSection part⟩
  exact inSection_eq_ok_iff.2 (htakes.returns other)

end Readers

/-! ## The parts of a class file -/

section Parts

variable {α : Type}

theorem Delimited.readHeader : Delimited id readHeader := by
  refine Delimited.u4.bind fun found => ?_
  split
  · exact Delimited.fail _
  · exact Delimited.u2.bind fun _ => Delimited.u2.bind fun _ => Delimited.pure _

/-- The content of a constant is of a length that its tag determines, or states first. -/
theorem Delimited.readContent (tag : UInt8) : Delimited id (Constant.readContent tag) := by
  have hword : ∀ f : UInt16 → Constant, Delimited id (do return f (← Reader.u2)) :=
    fun f => Delimited.u2.bind fun _ => Delimited.pure _
  have hwords : ∀ f : UInt16 → UInt16 → Constant,
      Delimited id (do return f (← Reader.u2) (← Reader.u2)) :=
    fun f => Delimited.u2.bind fun _ => Delimited.u2.bind fun _ => Delimited.pure _
  unfold Constant.readContent
  split
  · refine Delimited.u2.bind fun length => (Delimited.take length.toNat).bind fun body => ?_
    split
    · exact Delimited.pure _
    · exact Delimited.fail _
  · exact Delimited.u4.bind fun _ => Delimited.pure _
  · exact Delimited.u4.bind fun _ => Delimited.pure _
  · exact Delimited.u8.bind fun _ => Delimited.pure _
  · exact Delimited.u8.bind fun _ => Delimited.pure _
  · exact hword Constant.classRef
  · exact hword Constant.string
  · exact hwords Constant.fieldRef
  · exact hwords Constant.methodRef
  · exact hwords Constant.interfaceMethodRef
  · exact hwords Constant.nameAndType
  · exact Delimited.u1.bind fun _ => Delimited.u2.bind fun _ => Delimited.pure _
  · exact hword Constant.methodType
  · exact hwords Constant.dynamic
  · exact hwords Constant.invokeDynamic
  · exact hword Constant.module
  · exact hword Constant.package
  · exact Delimited.fail _

theorem Delimited.readConstant : Delimited id Constant.read :=
  Delimited.u1.bind Delimited.readContent

theorem Delimited.readSlots (slots : Nat) : Delimited id (ConstantPool.readSlots slots) := by
  fun_induction ConstantPool.readSlots slots with
  | case1 => exact Delimited.pure []
  | case2 =>
    refine Delimited.readConstant.bind fun c => ?_
    split
    · exact Delimited.fail _
    · exact Delimited.pure _
  | case3 slots ihWide ihNarrow =>
    refine Delimited.readConstant.bind fun c => ?_
    split
    · exact ihWide.bind fun _ => Delimited.pure _
    · exact ihNarrow.bind fun _ => Delimited.pure _

theorem Delimited.readPool : Delimited id ConstantPool.read :=
  Delimited.u2.bind fun _ => (Delimited.readSlots _).bind fun _ => Delimited.pure _

theorem Delimited.readClassInfo (pool : ConstantPool) : Delimited id (readClassInfo pool) :=
  Delimited.u2.bind fun _ => (Delimited.index pool.getClassName).bind fun _ =>
    Delimited.u2.bind fun _ => (Delimited.lift _).bind fun _ => Delimited.pure _

/-- An attribute ends where its length says, whatever stands in its body. -/
theorem Delimited.attributeEntry (pool : ConstantPool)
    (recognise : String → Option (Reader α)) : Delimited id (attributeEntry pool recognise) := by
  refine Delimited.u2.bind fun name => Delimited.u4.bind fun length => ?_
  refine Delimited.get_bind (fun _ _ _ => rfl) fun cursor => ?_
  refine (Delimited.take length.toNat).bind fun body => ?_
  refine (Delimited.lift _).bind fun name => ?_
  split
  · exact (Delimited.lift _).bind fun _ => Delimited.pure _
  · exact Delimited.pure none

theorem Delimited.attributeTable (pool : ConstantPool)
    (recognise : String → Option (Reader α)) : Delimited id (attributeTable pool recognise) :=
  (Delimited.attributeEntry pool recognise).table.bind fun _ => Delimited.pure _

theorem Delimited.readMember (pool : ConstantPool) (parseType : String → Except Fault α) :
    Delimited id (readMember pool parseType) :=
  Delimited.u2.bind fun _ => (Delimited.index pool.getUtf8).bind fun _ =>
    (Delimited.index pool.getUtf8).bind fun _ => (Delimited.lift _).bind fun _ =>
    (Delimited.attributeTable pool _).bind fun _ => Delimited.pure _

theorem Delimited.readMemberTable {part : UInt16 → Section} {item : Reader (Member α)}
    (h : Delimited id item) : Delimited Rejection.fault (readMemberTable part item) := by
  have hmembers : ∀ count index, Delimited Rejection.fault (readMembers part item index count) := by
    intro count
    induction count with
    | zero => exact fun _ => Delimited.pure []
    | succ count ih =>
      intro index
      exact (h.inSection _).bind fun _ => (ih (index + 1)).bind fun _ => Delimited.pure _
  exact (Delimited.u2.inSection _).bind fun count => hmembers count.toNat 0

end Parts

/-! ## The whole file -/

section File

variable {α β : Type}

/-- A reader that accepts an input takes all of it, and would leave over whatever follows. -/
structure Exhausts (part : Section) (offset : Nat) (m : FileReader α) (input : Bytes) : Prop where
  needsAll : NeedsAll Rejection.fault offset m input
  leaves : ∀ tail, tail ≠ [] → ∃ start, m ⟨offset, input ++ tail⟩ =
    .error ⟨.trailingBytes (offset + input.length) tail.length, part, start⟩

/-- A section of the file ends the file. -/
def EndsFile (part : Section) (m : FileReader α) : Prop :=
  ∀ offset input value rest, m ⟨offset, input⟩ = .ok (value, rest) → Exhausts part offset m input

theorem EndsFile.bind {part : Section} {m : FileReader α} {f : α → FileReader β}
    (hm : Delimited Rejection.fault m) (hf : ∀ value, EndsFile part (f value)) :
    EndsFile part (m >>= f) := by
  intro offset input result rest h
  obtain ⟨⟨value, middle⟩, hfirst, hsecond⟩ := bind_eq_ok_iff.1 h
  obtain ⟨used, tail, rfl, rfl, htakes⟩ := hm offset input value middle hfirst
  have hexhausts := hf value _ tail result rest hsecond
  refine ⟨NeedsAll.bind htakes hexhausts.needsAll, fun other hother => ?_⟩
  obtain ⟨start, hstart⟩ := hexhausts.leaves other hother
  refine ⟨start, ?_⟩
  show (m ⟨offset, used ++ tail ++ other⟩ >>= fun p => f p.1 p.2) = _
  rw [List.append_assoc, htakes.returns, List.length_append, ← Nat.add_assoc]
  exact hstart

/-- What is done with the value does not matter for the end. -/
theorem EndsFile.bind_pure {part : Section} {m : FileReader α} (hm : EndsFile part m)
    (f : α → β) : EndsFile part (do let value ← m; return f value) := by
  intro offset input result rest h
  obtain ⟨⟨value, middle⟩, hfirst, -⟩ := bind_eq_ok_iff.1 h
  have hexhausts := hm offset input value middle hfirst
  refine ⟨hexhausts.needsAll.bind_of_first _, fun tail htail => ?_⟩
  obtain ⟨start, hstart⟩ := hexhausts.leaves tail htail
  refine ⟨start, ?_⟩
  show (m ⟨offset, input ++ tail⟩ >>= _) = _
  rw [hstart]
  rfl

/-- A section that requires the end of the input ends the file. -/
theorem endsFile_expectEnd {m : Reader α} (hm : Delimited id m) (f : α → β) (part : Section) :
    EndsFile part
      (Reader.inSection part do let value ← m; Reader.expectEnd; return f value) := by
  intro offset input result rest h
  obtain ⟨⟨value, middle⟩, hm', hend⟩ := bind_eq_ok_iff.1 (inSection_eq_ok_iff.1 h)
  obtain ⟨used, tail, rfl, rfl, htakes⟩ := hm offset input value middle hm'
  cases tail with
  | nil =>
    rw [List.append_nil]
    refine ⟨(htakes.needsAll.bind_of_first _).inSection part, fun other hother => ?_⟩
    refine ⟨offset, inSection_eq_error ?_⟩
    show (m ⟨offset, used ++ other⟩ >>= _) = _
    rw [htakes.returns]
    obtain ⟨b, rest', rfl⟩ := List.exists_cons_of_ne_nil hother
    rfl
  -- the end has been required, so no byte is left
  | cons b tail => cases hend

theorem endsFile_read : EndsFile .classAttributes read := by
  unfold read
  refine EndsFile.bind (Delimited.readHeader.inSection _) fun versions => ?_
  refine EndsFile.bind (Delimited.readPool.inSection _) fun pool => ?_
  refine EndsFile.bind ((Delimited.readClassInfo pool).inSection _) fun info => ?_
  refine EndsFile.bind ((Delimited.index pool.getClassName).table.inSection _) fun names => ?_
  refine EndsFile.bind (Delimited.readMember pool _).readMemberTable fun fields => ?_
  refine EndsFile.bind (Delimited.readMember pool _).readMemberTable fun methods => ?_
  exact (endsFile_expectEnd (Delimited.attributeTable pool _) _ _).bind_pure _

end File

/-- A class file is self-delimiting: of an accepted file, every proper beginning is rejected because
the input ends there, with bytes missing that the file has, and every proper continuation is
rejected in the class attributes because of the bytes that it adds. -/
theorem parse_self_delimiting {bytes : Bytes} {file : ClassFile} (h : parse bytes = .ok file) :
    (∀ front missing, bytes = front ++ missing → missing ≠ [] →
      ∃ place needed part start,
        parse front = .error ⟨.unexpectedEnd place needed, part, start⟩ ∧
        place ≤ front.length ∧ 1 ≤ needed ∧ needed ≤ missing.length) ∧
    ∀ tail, tail ≠ [] → ∃ start,
      parse (bytes ++ tail) =
        .error ⟨.trailingBytes bytes.length tail.length, .classAttributes, start⟩ := by
  have herror : ∀ {input e}, read ⟨0, input⟩ = .error e → parse input = .error e := by
    intro input e he
    show (read ⟨0, input⟩).map _ = _
    rw [he]
    rfl
  obtain ⟨rest, hread⟩ := parse_eq_ok_iff.1 h
  have hexhausts := endsFile_read 0 bytes file rest hread
  constructor
  · intro front missing hbytes hmissing
    obtain ⟨⟨fault, part, start⟩, place, needed, he, hcause, hplace, hpos, hle⟩ :=
      hexhausts.needsAll front missing hbytes hmissing
    change fault = .unexpectedEnd place needed at hcause
    subst hcause
    rw [Nat.zero_add] at hplace
    exact ⟨place, needed, part, start, herror he, hplace, hpos, hle⟩
  · intro tail htail
    obtain ⟨start, hstart⟩ := hexhausts.leaves tail htail
    rw [Nat.zero_add] at hstart
    exact ⟨start, herror hstart⟩

/-- The file of a class `A` with a field `int x` and a source file. -/
def fieldClassBytes : Bytes :=
  [0xca, 0xfe, 0xba, 0xbe, 0, 0, 0, 65,
    0, 6, 1, 0, 1, 0x41, 7, 0, 1, 1, 0, 1, 0x78, 1, 0, 1, 0x49,
    1, 0, 10, 0x53, 0x6f, 0x75, 0x72, 0x63, 0x65, 0x46, 0x69, 0x6c, 0x65,
    0, 0x21, 0, 2, 0, 0, 0, 0,
    0, 1, 0, 0, 0, 3, 0, 4, 0, 0,
    0, 0,
    0, 1, 0, 5, 0, 0, 0, 2, 0, 1]

/-- The content of that file. -/
def fieldClass : ClassFile where
  minorVersion := 0
  majorVersion := 65
  flags := 0x21
  thisClass := "A"
  superClass := none
  interfaces := []
  fields := [⟨0, "x", "I", .base .int, none, [], [], [], none⟩]
  methods := []
  signature := none
  sourceFile := some "A"
  visible := []
  invisible := []
  innerClasses := []
  enclosingMethod := none

theorem parse_fieldClassBytes : parse fieldClassBytes = .ok fieldClass := by
  rfl

/-- The file is rejected if it lacks its last byte, which stands in the body of an attribute, and if
it has one byte more. -/
theorem parse_self_delimiting_field :
    parse fieldClassBytes = .ok fieldClass ∧
      (∃ place needed part start,
        parse fieldClassBytes.dropLast = .error ⟨.unexpectedEnd place needed, part, start⟩ ∧
        place ≤ 67 ∧ 1 ≤ needed ∧ needed ≤ 1) ∧
      ∃ start, parse (fieldClassBytes ++ [0]) =
        .error ⟨.trailingBytes 68 1, .classAttributes, start⟩ := by
  obtain ⟨hcut, hcontinued⟩ := parse_self_delimiting parse_fieldClassBytes
  exact ⟨parse_fieldClassBytes, hcut fieldClassBytes.dropLast [1] rfl (List.cons_ne_nil 1 []),
    hcontinued [0] (List.cons_ne_nil 0 [])⟩

end TypeAtlas.ClassFile
