import TypeAtlas.Assembly.PoolBuilder
import TypeAtlas.Proofs.ClassFile.Constants

/-!
# Indices into the finished pool

The pool that is read back holds each constant at the index of its first slot (`get_content_iff`).
While a class is assembled its pool only grows at the end, so an index handed out early keeps its
meaning. `Ensures q w P` says that the computation `w` yields a result with property `P` whenever
the pool it leaves is still the beginning of the pool `q`; the rules for sequences make it enough to
look at one request at a time. What a request yields is stated about the finished pool: its index
leads to the constant that was asked for (`ensures_add`).
-/

set_option autoImplicit false

namespace TypeAtlas.Assembly

open ClassFile (Constant ConstantPool PoolIndex MemberRefKind Reads bind_eq_ok_iff)

/-! ## What a lookup says about the pool -/

section Lookups

variable {pool : ConstantPool} {i : PoolIndex}

theorem get_eq_ok_iff {c : Constant} :
    pool.get i = .ok c ↔ pool.slots[i.toNat]? = some (some c) := by
  unfold ConstantPool.get
  constructor
  · intro h
    split at h
    · rename_i hslot
      cases h
      exact hslot
    · cases h
  · intro h
    rw [h]

theorem getUtf8_eq_ok_iff {text : String} :
    pool.getUtf8 i = .ok text ↔ pool.get i = .ok (.utf8 text) := by
  rw [ConstantPool.getUtf8, bind_eq_ok_iff]
  constructor
  · rintro ⟨c, hget, hc⟩
    cases c <;> cases hc
    exact hget
  · intro hget
    exact ⟨_, hget, rfl⟩

theorem getClassName_eq_ok_iff {name : String} :
    pool.getClassName i = .ok name ↔
      ∃ n, pool.getUtf8 n = .ok name ∧ pool.get i = .ok (.classRef n) := by
  rw [ConstantPool.getClassName, bind_eq_ok_iff]
  constructor
  · rintro ⟨c, hget, hc⟩
    cases c with
    | classRef n => exact ⟨n, hc, hget⟩
    | _ => cases hc
  · rintro ⟨n, hname, hget⟩
    exact ⟨_, hget, hname⟩

theorem getNameAndType_eq_ok_iff {name descriptor : String} :
    pool.getNameAndType i = .ok (name, descriptor) ↔
      ∃ n d, pool.getUtf8 n = .ok name ∧ pool.getUtf8 d = .ok descriptor ∧
        pool.get i = .ok (.nameAndType n d) := by
  rw [ConstantPool.getNameAndType, bind_eq_ok_iff]
  constructor
  · rintro ⟨c, hget, hc⟩
    cases c with
    | nameAndType n d =>
      obtain ⟨text, hname, hc⟩ := bind_eq_ok_iff.1 hc
      obtain ⟨other, hdescriptor, hc⟩ := bind_eq_ok_iff.1 hc
      cases hc
      exact ⟨n, d, hname, hdescriptor, hget⟩
    | _ => cases hc
  · rintro ⟨n, d, hname, hdescriptor, hget⟩
    refine ⟨_, hget, bind_eq_ok_iff.2 ⟨_, hname, bind_eq_ok_iff.2 ⟨_, hdescriptor, rfl⟩⟩⟩

theorem lookUp_eq_ok_iff {kind : MemberRefKind} {owner nat : PoolIndex}
    {target : ClassFile.MemberRef} :
    ConstantPool.getMemberRef.lookUp pool kind owner nat = .ok target ↔
      kind = target.kind ∧ pool.getClassName owner = .ok target.owner ∧
        pool.getNameAndType nat = .ok (target.name, target.descriptor) := by
  rw [ConstantPool.getMemberRef.lookUp, bind_eq_ok_iff]
  constructor
  · rintro ⟨name, howner, h⟩
    obtain ⟨names, hnames, h⟩ := bind_eq_ok_iff.1 h
    cases h
    exact ⟨rfl, howner, hnames⟩
  · rintro ⟨rfl, howner, hnames⟩
    exact ⟨_, howner, bind_eq_ok_iff.2 ⟨_, hnames, rfl⟩⟩

theorem getMemberRef_eq_ok_iff {target : ClassFile.MemberRef} :
    pool.getMemberRef i = .ok target ↔
      ∃ owner nat, pool.getClassName owner = .ok target.owner ∧
        pool.getNameAndType nat = .ok (target.name, target.descriptor) ∧
        pool.get i = .ok (PoolBuilder.referenceConstant target.kind owner nat) := by
  rw [ConstantPool.getMemberRef, bind_eq_ok_iff]
  constructor
  · rintro ⟨c, hget, hc⟩
    cases c with
    | fieldRef owner nat | methodRef owner nat | interfaceMethodRef owner nat =>
      obtain ⟨hkind, howner, hnames⟩ := lookUp_eq_ok_iff.1 hc
      exact ⟨owner, nat, howner, hnames, by rw [← hkind]; exact hget⟩
    | _ => cases hc
  · rintro ⟨owner, nat, howner, hnames, hget⟩
    refine ⟨_, hget, ?_⟩
    have hlook := lookUp_eq_ok_iff.2 ⟨rfl, howner, hnames⟩
    cases hkind : target.kind <;> rw [hkind] at hlook <;> exact hlook

end Lookups

namespace PoolBuilder

/-- The pool that is read back. -/
def content (q : PoolBuilder) : ConstantPool := ⟨(none :: ConstantPool.layout q.constants).toArray⟩

/-- The constants fit into a class file: each one does, and their slots can be counted. -/
structure Fits (q : PoolBuilder) : Prop where
  slots : slotsOf q.constants ≤ 65534
  constants : ∀ c ∈ q.constants, c.Fits

theorem getElem?_content (q : PoolBuilder) (k : Nat) :
    q.content.slots[k]? = (none :: ConstantPool.layout q.constants)[k]? := by
  rw [content, List.getElem?_toArray]

/-! ## Slots -/

theorem width_wide {c : Constant} (h : c.isWide = true) : c.width = 2 := by
  rw [Constant.width, if_pos h]

theorem width_narrow {c : Constant} (h : c.isWide = false) : c.width = 1 := by
  rw [Constant.width, h]
  rfl

theorem width_pos (c : Constant) : 0 < c.width := by
  rw [Constant.width]
  split
  · exact Nat.two_pos
  · exact Nat.one_pos

theorem length_layout (constants : List Constant) :
    (ConstantPool.layout constants).length = slotsOf constants := by
  induction constants with
  | nil => rfl
  | cons c rest ih =>
    rw [slotsOf, ← ih, Constant.width]
    cases h : c.isWide with
    | true =>
      rw [ConstantPool.layout_wide h, List.length_cons, List.length_cons, if_pos rfl]
      omega
    | false =>
      rw [ConstantPool.layout_narrow h, List.length_cons]
      exact Nat.add_comm _ 1

theorem slotsOf_append (front back : List Constant) :
    slotsOf (front ++ back) = slotsOf front + slotsOf back := by
  rw [← length_layout, ConstantPool.layout_append, List.length_append, length_layout, length_layout]

/-- A constant stands behind the slots of the constants before it. -/
theorem getElem?_layout (front back : List Constant) (c : Constant) :
    (ConstantPool.layout (front ++ c :: back))[slotsOf front]? = some (some c) := by
  rw [ConstantPool.layout_append, ← length_layout, List.getElem?_append_right (Nat.le_refl _),
    Nat.sub_self]
  -- whatever its width, the constant takes the first of its slots
  cases hwide : c.isWide with
  | true =>
    rw [ConstantPool.layout_wide hwide]
    rfl
  | false =>
    rw [ConstantPool.layout_narrow hwide]
    rfl

/-- A constant that stands in a slot is behind the slots of the constants before it. -/
theorem exists_of_layout {constants : List Constant} {k : Nat} {c : Constant}
    (h : (ConstantPool.layout constants)[k]? = some (some c)) :
    ∃ front back, constants = front ++ c :: back ∧ k = slotsOf front := by
  induction constants generalizing k with
  | nil => cases h
  | cons d rest ih =>
    have hbehind : ∀ k, (ConstantPool.layout rest)[k]? = some (some c) →
        ∃ front back, d :: rest = front ++ c :: back ∧ d.width + k = slotsOf front := by
      intro k hk
      obtain ⟨front, back, rfl, rfl⟩ := ih hk
      exact ⟨d :: front, back, rfl, rfl⟩
    cases hwide : d.isWide with
    | true =>
      rw [ConstantPool.layout_wide hwide] at h
      match k with
      | 0 =>
        cases h
        exact ⟨[], rest, rfl, rfl⟩
      | 1 => cases h
      | k + 2 =>
        have hfound := hbehind k h
        rwa [width_wide hwide, Nat.add_comm] at hfound
    | false =>
      rw [ConstantPool.layout_narrow hwide] at h
      match k with
      | 0 =>
        cases h
        exact ⟨[], rest, rfl, rfl⟩
      | k + 1 =>
        have hfound := hbehind k h
        rwa [width_narrow hwide, Nat.add_comm] at hfound

/-- A pool is read from the number of its slots and what its constants are read from. -/
theorem reads_content {q : PoolBuilder} {count : UInt16} {pieces : List Bytes}
    (hcount : slotsOf q.constants = count.toNat - 1)
    (h : List.Forall₂ (fun piece c => Reads piece Constant.read c) pieces q.constants) :
    Reads (word16 count ++ pieces.flatten) ConstantPool.read q.content := by
  apply (Reads.u2 count).bind
  rw [← hcount, ← length_layout]
  exact (ConstantPool.reads_layout h).bind_nil Reads.pure

/-- The bytes of a pool are read back as the pool. -/
theorem reads_write {q : PoolBuilder} (hq : q.Fits) :
    Reads q.write ConstantPool.read q.content := by
  have hcount : slotsOf q.constants = (UInt16.ofNat q.next).toNat - 1 := by
    have hslots := hq.slots
    have hle : q.next ≤ 65535 := by
      show 1 + slotsOf q.constants ≤ 65535
      omega
    rw [toNat_ofNat_of_le hle]
    exact (Nat.add_sub_cancel_left 1 _).symm
  rw [write, List.flatMap_def]
  apply reads_content hcount
  rw [List.forall₂_map_left_iff, List.forall₂_same]
  exact fun c hc => Constant.reads_encode (hq.constants c hc)

/-- What is found at an index is the constant that has so many slots before it, slot zero
included. -/
theorem get_content_iff {q : PoolBuilder} {i : PoolIndex} {c : Constant} :
    q.content.get i = .ok c ↔
      ∃ front back, q.constants = front ++ c :: back ∧ i.toNat = slotsOf front + 1 := by
  rw [get_eq_ok_iff, getElem?_content]
  constructor
  · intro hslot
    cases hi : i.toNat with
    | zero =>
      rw [hi] at hslot
      cases hslot
    | succ k =>
      rw [hi, List.getElem?_cons_succ] at hslot
      obtain ⟨front, back, hsplit, rfl⟩ := exists_of_layout hslot
      exact ⟨front, back, hsplit, rfl⟩
  · rintro ⟨front, back, hsplit, hi⟩
    rw [hi, List.getElem?_cons_succ, hsplit]
    exact getElem?_layout front back c

/-- A constant is found behind the slots of the constants before it. -/
theorem get_content {q : PoolBuilder} (hq : q.Fits) {front back : List Constant} {c : Constant}
    (h : q.constants = front ++ c :: back) :
    q.content.get (UInt16.ofNat (1 + slotsOf front)) = .ok c ∧
      UInt16.ofNat (1 + slotsOf front) ≠ 0 := by
  have hwidth : 0 < slotsOf (c :: back) := Nat.add_pos_left (width_pos c) _
  have hslots : slotsOf front + slotsOf (c :: back) ≤ 65534 := by
    rw [← slotsOf_append, ← h]
    exact hq.slots
  have hnat : (UInt16.ofNat (1 + slotsOf front)).toNat = slotsOf front + 1 := by
    rw [toNat_ofNat_of_le (by omega), Nat.add_comm]
  refine ⟨get_content_iff.2 ⟨front, back, h, hnat⟩, fun hzero => ?_⟩
  rw [hzero] at hnat
  exact absurd hnat (Nat.succ_ne_zero _).symm

/-- A constant that is found has the index of its place. -/
theorem exists_of_indexFrom {start i : Nat} {constants : List Constant} {c : Constant}
    (h : indexFrom start constants c = some i) :
    ∃ front back, constants = front ++ c :: back ∧ i = start + slotsOf front := by
  induction constants generalizing start with
  | nil => cases h
  | cons d rest ih =>
    rw [indexFrom] at h
    by_cases hd : d = c
    · rw [if_pos hd] at h
      cases h
      exact ⟨[], rest, by rw [hd, List.nil_append], rfl⟩
    · rw [if_neg hd] at h
      obtain ⟨front, back, rfl, rfl⟩ := ih h
      exact ⟨d :: front, back, rfl, by rw [slotsOf, Nat.add_assoc]⟩

end PoolBuilder

/-! ## What a computation ensures -/

section Ensures

variable {q : PoolBuilder} {α β : Type} {P : α → Prop} {Q : β → Prop}

/-- If the pool that is left is the beginning of `q`, then so was the pool before, and the result
has the property. -/
def Ensures (q : PoolBuilder) (w : Assembler α) (P : α → Prop) : Prop :=
  ∀ p, (w p).2.constants <+: q.constants → p.constants <+: q.constants ∧ P (w p).1

theorem Ensures.pure {a : α} (h : P a) : Ensures q (pure a) P := fun _ hp => ⟨hp, h⟩

/-- What the first step ensures is known only once the second is seen to keep its pool, so it is a
premise of what the second step has to ensure. -/
theorem Ensures.bind {w : Assembler α} {f : α → Assembler β} (hw : Ensures q w P)
    (hf : ∀ a, Ensures q (f a) fun b => P a → Q b) : Ensures q (w >>= f) Q := by
  intro p hp
  obtain ⟨hmiddle, hresult⟩ := hf (w p).1 (w p).2 hp
  obtain ⟨hstart, ha⟩ := hw p hmiddle
  exact ⟨hstart, hresult ha⟩

/-- What holds of every result of the first step, whatever pool it is run in, may be used at
once. -/
theorem Ensures.bind_known {R : α → Prop} {w : Assembler α} {f : α → Assembler β}
    (hR : ∀ p, R (w p).1) (hw : Ensures q w P)
    (hf : ∀ a, R a → Ensures q (f a) fun b => P a → Q b) : Ensures q (w >>= f) Q := by
  intro p hp
  obtain ⟨hmiddle, hresult⟩ := hf (w p).1 (hR p) (w p).2 hp
  obtain ⟨hstart, ha⟩ := hw p hmiddle
  exact ⟨hstart, hresult ha⟩

theorem Ensures.weaken {P' : α → Prop} {w : Assembler α} (hw : Ensures q w P)
    (h : ∀ a, P a → P' a) : Ensures q w P' := by
  intro p hp
  obtain ⟨hstart, ha⟩ := hw p hp
  exact ⟨hstart, h _ ha⟩

theorem Ensures.and {P' : α → Prop} {w : Assembler α} (hw : Ensures q w P)
    (hw' : Ensures q w P') : Ensures q w fun a => P a ∧ P' a := by
  intro p hp
  exact ⟨(hw p hp).1, (hw p hp).2, (hw' p hp).2⟩

/-- What is ensured for all pools holds of every result. -/
theorem Ensures.result {w : Assembler α} (h : ∀ q, Ensures q w P) (p : PoolBuilder) :
    P (w p).1 :=
  (h (w p).2 p List.prefix_rfl).2

theorem Ensures.map {w : Assembler α} {f : α → β} (hw : Ensures q w P)
    (h : ∀ a, P a → Q (f a)) : Ensures q (f <$> w) Q := by
  rw [map_eq_pure_bind]
  exact hw.bind fun a => Ensures.pure (h a)

theorem Ensures.mapM {γ : Type} {R : β → γ → Prop} {f : α → Assembler β} {list : List α}
    {targets : List γ} (h : List.Forall₂ (fun a c => Ensures q (f a) fun b => R b c) list targets) :
    Ensures q (list.mapM f) fun results => List.Forall₂ R results targets := by
  induction h with
  | nil =>
    rw [List.mapM_nil]
    exact Ensures.pure List.Forall₂.nil
  | cons hfirst _ ih =>
    rw [List.mapM_cons]
    refine hfirst.bind fun b => ih.bind fun others => ?_
    exact Ensures.pure fun hothers hb => List.Forall₂.cons hb hothers

end Ensures

/-! ## Requests -/

namespace PoolBuilder

variable {q : PoolBuilder} (hq : q.Fits)

include hq

/-- A request yields the index under which the finished pool holds the constant. -/
theorem ensures_add (c : Constant) :
    Ensures q (add c) fun i => q.content.get i = .ok c ∧ i ≠ 0 := by
  intro p hp
  unfold add at hp ⊢
  cases hfound : indexFrom 1 p.constants c with
  | some i =>
    rw [hfound] at hp
    -- the constant is in the pool already, and the pool stays
    obtain ⟨front, back, hconstants, rfl⟩ := exists_of_indexFrom hfound
    obtain ⟨more, hmore⟩ := hp
    have hsplit : q.constants = front ++ c :: (back ++ more) := by
      rw [← hmore, hconstants, List.append_assoc, List.cons_append]
    exact ⟨⟨more, hmore⟩, get_content hq hsplit⟩
  | none =>
    rw [hfound] at hp
    obtain ⟨more, hmore⟩ := hp
    -- the constant is new, and stands behind all others from then on
    have hsplit : q.constants = p.constants ++ c :: more := by
      rw [← hmore, List.append_assoc, List.singleton_append]
    exact ⟨⟨c :: more, hsplit.symm⟩, get_content hq hsplit⟩

theorem ensures_utf8 (text : String) :
    Ensures q (utf8 text) fun i => q.content.getUtf8 i = .ok text ∧ i ≠ 0 :=
  (ensures_add hq _).weaken fun _ hi => ⟨getUtf8_eq_ok_iff.2 hi.1, hi.2⟩

theorem ensures_classRef (name : String) :
    Ensures q (classRef name) fun i => q.content.getClassName i = .ok name ∧ i ≠ 0 := by
  refine (ensures_utf8 hq name).bind fun text => (ensures_add hq _).weaken fun i hi htext => ?_
  exact ⟨getClassName_eq_ok_iff.2 ⟨text, htext.1, hi.1⟩, hi.2⟩

theorem ensures_classRef? (name : Option String) :
    Ensures q (classRef? name) fun i => q.content.getClassName? i = .ok name := by
  cases name with
  | none => exact Ensures.pure rfl
  | some name =>
    apply (ensures_classRef hq name).weaken
    intro i hi
    rw [ConstantPool.getClassName?, if_neg hi.2, hi.1]
    rfl

theorem ensures_utf8? (text : Option String) :
    Ensures q (utf8? text) fun i =>
      (if i = 0 then .ok none else some <$> q.content.getUtf8 i) = .ok text := by
  cases text with
  | none => exact Ensures.pure rfl
  | some text =>
    apply (ensures_utf8 hq text).weaken
    intro i hi
    rw [if_neg hi.2, hi.1]
    rfl

theorem ensures_nameAndType (name descriptor : String) :
    Ensures q (nameAndType name descriptor) fun i =>
      q.content.getNameAndType i = .ok (name, descriptor) ∧ i ≠ 0 := by
  refine (ensures_utf8 hq name).bind fun n => (ensures_utf8 hq descriptor).bind fun d => ?_
  refine (ensures_add hq _).weaken fun i hi hd hn => ?_
  exact ⟨getNameAndType_eq_ok_iff.2 ⟨n, d, hn.1, hd.1, hi.1⟩, hi.2⟩

theorem ensures_memberRef (kind : MemberRefKind) (owner name descriptor : String) :
    Ensures q (memberRef kind owner name descriptor) fun i =>
      q.content.getMemberRef i = .ok ⟨kind, Text.internalName owner, name, descriptor⟩ := by
  refine (ensures_classRef hq (Text.internalName owner)).bind fun o => ?_
  refine (ensures_nameAndType hq name descriptor).bind fun nat => ?_
  apply (ensures_add hq _).weaken
  intro i hi hnat howner
  exact getMemberRef_eq_ok_iff.2 ⟨o, nat, howner.1, hnat.1, hi.1⟩

end PoolBuilder

end TypeAtlas.Assembly
