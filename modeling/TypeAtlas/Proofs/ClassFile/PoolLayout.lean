import TypeAtlas.Proofs.Assembly.Pool
import TypeAtlas.Proofs.ClassFile.Delimited
import TypeAtlas.Proofs.ClassFile.Written
import TypeAtlas.Proofs.Text.Groups

/-!
# How constants lie in a pool

The bytes of a pool are the number of its slots and the forms of its constants, one after another;
`Constant.Form` has the forms, of which a text may have several. They fill the slots in the same
order, two slots for a wide constant and one for any other (`LaidOut`). What is read is always so
laid out, and whatever is so laid out is read (`read_laidOut`). The reader counts slots down while
it takes constants off the input, so both sides go through `ConstantPool.layout`, the slots that
constants fill (`exists_of_readSlots`, `laidOut_content`).
-/

set_option autoImplicit false

namespace TypeAtlas.ClassFile

open Assembly (PoolBuilder)
open Assembly.PoolBuilder (slotsOf)

namespace Constant

/-! ## The forms of constants -/

/-- The bytes that a constant is read from, its tag first. A text is spelled in groups, which need
not be the shortest, behind the number of their bytes; any other constant has the one form in which
it is written. -/
inductive Form : Bytes → Constant → Prop where
  | text {body : Bytes} {us : List UInt16} {text : String} (hlength : body.length ≤ 65535)
      (hsplits : Text.ModifiedUtf8.Splits Text.ModifiedUtf8.IsGroup body us)
      (hreading : Text.Utf16.IsReading us text.toList) :
      Form (1 :: count16 body.length ++ body) (.utf8 text)
  | other {c : Constant} (h : ∀ text, c ≠ .utf8 text) : Form c.encode c

theorem Form.of_encode {piece : Bytes} (c : Constant) (hother : ∀ text, c ≠ .utf8 text)
    (h : c.encode = piece) : Form piece c :=
  h ▸ .other hother

theorem Form.reads {piece : Bytes} {c : Constant} (h : Form piece c) : Reads piece read c := by
  cases h with
  | text hlength hsplits hreading =>
    exact reads_utf8 hlength (Text.ModifiedUtf8.decode_eq_some_iff.2 ⟨_, hsplits, hreading⟩)
  | other hother => exact reads_encode (fits_of_ne_utf8 hother)

section Content

variable {α β : Type} {tag : UInt8} {c c' : Cursor} {k : Constant}

/-- From one position to the other stands what a form of a constant has behind its tag. -/
def FormTaken (tag : UInt8) (c c' : Cursor) (k : Constant) : Prop :=
  ∃ content, Form (tag :: content) k ∧ c.bytes = content ++ c'.bytes

/-- A constant with one number or index. -/
theorem formTaken_of_one {first : Reader α} {write : α → Bytes} {f : α → Constant}
    (hfirst : ∀ {c c' : Cursor} {a : α}, first c = .ok (a, c') → c.bytes = write a ++ c'.bytes)
    (hform : ∀ a, Form (tag :: write a) (f a))
    (h : (do return f (← first) : Reader Constant) c = .ok (k, c')) : FormTaken tag c c' k := by
  rcases bind_eq_ok_iff.1 h with ⟨⟨a, c₁⟩, ha, h⟩
  cases h
  exact ⟨write a, hform a, hfirst ha⟩

/-- A constant with two indices, or with a kind and an index. -/
theorem formTaken_of_two {first : Reader α} {second : Reader β} {write : α → Bytes}
    {write' : β → Bytes} {f : α → β → Constant}
    (hfirst : ∀ {c c' : Cursor} {a : α}, first c = .ok (a, c') → c.bytes = write a ++ c'.bytes)
    (hsecond : ∀ {c c' : Cursor} {b : β}, second c = .ok (b, c') → c.bytes = write' b ++ c'.bytes)
    (hform : ∀ a b, Form (tag :: (write a ++ write' b)) (f a b))
    (h : (do return f (← first) (← second) : Reader Constant) c = .ok (k, c')) :
    FormTaken tag c c' k := by
  rcases bind_eq_ok_iff.1 h with ⟨⟨a, c₁⟩, ha, h⟩
  rcases bind_eq_ok_iff.1 h with ⟨⟨b, c₂⟩, hb, h⟩
  cases h
  refine ⟨write a ++ write' b, hform a b, ?_⟩
  rw [hfirst ha, hsecond hb, List.append_assoc]

/-- A text. -/
theorem formTaken_of_text (h : readContent 1 c = .ok (k, c')) : FormTaken 1 c c' k := by
  rcases bind_eq_ok_iff.1 h with ⟨⟨length, c₁⟩, hcount, h⟩
  rcases bind_eq_ok_iff.1 h with ⟨⟨body, c₂⟩, htake, h⟩
  obtain ⟨hbody, hlength, -⟩ := take_eq_ok htake
  cases hdecode : Text.ModifiedUtf8.decode body with
  | none =>
    simp only [hdecode] at h
    cases h
  | some text =>
    simp only [hdecode] at h
    cases h
    obtain ⟨us, hsplits, hreading⟩ := Text.ModifiedUtf8.decode_eq_some_iff.1 hdecode
    have hword : count16 body.length = word16 length := by
      rw [count16, hlength, UInt16.ofNat_toNat]
    have hle : body.length ≤ 65535 := hlength ▸ Nat.le_of_lt_succ length.toNat_lt
    refine ⟨count16 body.length ++ body, .text hle hsplits hreading, ?_⟩
    rw [u2_eq_ok hcount, hbody, hword, List.append_assoc]

/-- Behind a tag that is accepted stands the content of a form. -/
theorem formTaken_of_readContent (h : readContent tag c = .ok (k, c')) : FormTaken tag c c' k := by
  unfold readContent at h
  split at h
  · exact formTaken_of_text h
  · exact formTaken_of_one u4_eq_ok (fun n => .of_encode (.integer n.toInt32) nofun rfl) h
  · exact formTaken_of_one u4_eq_ok (fun n => .of_encode (.float n) nofun rfl) h
  · exact formTaken_of_one u8_eq_ok (fun n => .of_encode (.long n.toInt64) nofun rfl) h
  · exact formTaken_of_one u8_eq_ok (fun n => .of_encode (.double n) nofun rfl) h
  · exact formTaken_of_one u2_eq_ok (fun n => .of_encode (.classRef n) nofun rfl) h
  · exact formTaken_of_one u2_eq_ok (fun n => .of_encode (.string n) nofun rfl) h
  · exact formTaken_of_two u2_eq_ok u2_eq_ok (fun n m => .of_encode (.fieldRef n m) nofun rfl) h
  · exact formTaken_of_two u2_eq_ok u2_eq_ok (fun n m => .of_encode (.methodRef n m) nofun rfl) h
  · exact formTaken_of_two u2_eq_ok u2_eq_ok
      (fun n m => .of_encode (.interfaceMethodRef n m) nofun rfl) h
  · exact formTaken_of_two u2_eq_ok u2_eq_ok (fun n m => .of_encode (.nameAndType n m) nofun rfl) h
  · exact formTaken_of_two u1_eq_ok u2_eq_ok
      (fun n m => .of_encode (.methodHandle n m) nofun rfl) h
  · exact formTaken_of_one u2_eq_ok (fun n => .of_encode (.methodType n) nofun rfl) h
  · exact formTaken_of_two u2_eq_ok u2_eq_ok (fun n m => .of_encode (.dynamic n m) nofun rfl) h
  · exact formTaken_of_two u2_eq_ok u2_eq_ok
      (fun n m => .of_encode (.invokeDynamic n m) nofun rfl) h
  · exact formTaken_of_one u2_eq_ok (fun n => .of_encode (.module n) nofun rfl) h
  · exact formTaken_of_one u2_eq_ok (fun n => .of_encode (.package n) nofun rfl) h
  · cases h

end Content

/-- A constant that is accepted stands there in one of its forms. -/
theorem exists_of_read {c c' : Cursor} {k : Constant} (h : read c = .ok (k, c')) :
    ∃ piece, Form piece k ∧ c.bytes = piece ++ c'.bytes := by
  rcases bind_eq_ok_iff.1 h with ⟨⟨tag, c₁⟩, htag, h⟩
  obtain ⟨content, hform, hbytes⟩ := formTaken_of_readContent h
  refine ⟨tag :: content, hform, ?_⟩
  rw [u1_eq_ok htag, hbytes]
  rfl

end Constant

namespace ConstantPool

/-! ## The bytes of a pool -/

/-- Slots that are accepted are filled by the constants that stand there one after another. -/
theorem exists_of_readSlots {slots : Nat} {c c' : Cursor} {list : List (Option Constant)}
    (h : readSlots slots c = .ok (list, c')) :
    ∃ constants pieces, List.Forall₂ Constant.Form pieces constants ∧ slotsOf constants = slots ∧
      list = layout constants ∧ c.bytes = pieces.flatten ++ c'.bytes := by
  fun_induction readSlots slots generalizing c list with
  | case1 =>
    cases h
    exact ⟨[], [], .nil, rfl, rfl, rfl⟩
  | case2 =>
    rcases bind_eq_ok_iff.1 h with ⟨⟨k, c₁⟩, hk, h⟩
    obtain ⟨piece, hform, hbytes⟩ := Constant.exists_of_read hk
    cases hwide : k.isWide with
    | true =>
      simp only [hwide, if_true] at h
      cases h
    | false =>
      simp only [hwide, Bool.false_eq_true, if_false] at h
      cases h
      refine ⟨[k], [piece], .cons hform .nil, PoolBuilder.width_narrow hwide,
        (layout_narrow hwide []).symm, ?_⟩
      rw [hbytes, List.flatten_singleton]
  | case3 slots ihWide ihNarrow =>
    rcases bind_eq_ok_iff.1 h with ⟨⟨k, c₁⟩, hk, h⟩
    obtain ⟨piece, hform, hbytes⟩ := Constant.exists_of_read hk
    cases hwide : k.isWide with
    | true =>
      simp only [hwide, if_true] at h
      rcases bind_eq_ok_iff.1 h with ⟨⟨others, c₂⟩, hothers, h⟩
      cases h
      obtain ⟨rest, pieces, hrest, hslots, rfl, hback⟩ := ihWide hothers
      refine ⟨k :: rest, piece :: pieces, .cons hform hrest, ?_,
        (layout_wide hwide rest).symm, ?_⟩
      · rw [slotsOf, PoolBuilder.width_wide hwide, hslots, Nat.add_comm]
      · rw [hbytes, hback, List.flatten_cons, List.append_assoc]
    | false =>
      simp only [hwide, Bool.false_eq_true, if_false] at h
      rcases bind_eq_ok_iff.1 h with ⟨⟨others, c₂⟩, hothers, h⟩
      cases h
      obtain ⟨rest, pieces, hrest, hslots, rfl, hback⟩ := ihNarrow hothers
      refine ⟨k :: rest, piece :: pieces, .cons hform hrest, ?_,
        (layout_narrow hwide rest).symm, ?_⟩
      · rw [slotsOf, PoolBuilder.width_narrow hwide, hslots, Nat.add_comm]
      · rw [hbytes, hback, List.flatten_cons, List.append_assoc]

/-! ## The slots of a pool -/

/-- A constant has its first slot at an index: so many slots are taken by the constants before it,
slot zero apart. -/
def StartsAt (constants : List Constant) (c : Constant) (index : Nat) : Prop :=
  ∃ front back, constants = front ++ c :: back ∧ index = slotsOf front + 1

/-- Constants fill a pool of so many slots, slot zero included. The slots that hold nothing are slot
zero and the second slots of wide constants, and what is found at an index is the constant that has
its first slot there. -/
structure LaidOut (count : Nat) (constants : List Constant) (pool : ConstantPool) : Prop where
  filled : slotsOf constants = count - 1
  size : pool.slots.size = max count 1
  empty : ∀ i < pool.slots.size, pool.slots[i]? = some none ↔
    i = 0 ∨ ∃ c, pool.slots[i - 1]? = some (some c) ∧ c.isWide = true
  last : ∀ c, pool.slots[pool.slots.size - 1]? = some (some c) → c.isWide = false
  get : ∀ (i : PoolIndex) c, pool.get i = .ok c ↔ i.toNat < count ∧ StartsAt constants c i.toNat

/-- Behind a slot without a wide constant, a slot of a layout is empty exactly if the slot before it
holds a wide constant. -/
theorem layout_eq_none_iff {head : Option Constant} (hhead : ∀ c, head = some c → c.isWide = false)
    {constants : List Constant} {k : Nat} :
    (layout constants)[k]? = some none ↔
      ∃ c, (head :: layout constants)[k]? = some (some c) ∧ c.isWide = true := by
  have hfirst : ∀ {slot : Option Constant}, (∀ c, slot = some c → c.isWide = false) →
      ¬ ∃ c, some slot = some (some c) ∧ c.isWide = true := by
    rintro slot hslot ⟨c, hc, hwide⟩
    rw [hslot c (Option.some.inj hc)] at hwide
    cases hwide
  induction constants generalizing head k with
  | nil =>
    cases k with
    | zero => exact iff_of_false nofun (hfirst hhead)
    | succ k => exact iff_of_false nofun nofun
  | cons d rest ih =>
    cases hwide : d.isWide with
    | true =>
      rw [layout_wide hwide]
      match k with
      | 0 => exact iff_of_false nofun (hfirst hhead)
      | 1 => exact iff_of_true rfl ⟨d, rfl, hwide⟩
      -- before the slots of the rest stands the second slot of `d`
      | k + 2 => exact @ih none nofun k
    | false =>
      rw [layout_narrow hwide]
      have hd : ∀ c, some d = some c → c.isWide = false := by
        intro c hc
        cases hc
        exact hwide
      cases k with
      | zero => exact iff_of_false nofun (hfirst hhead)
      | succ k => exact ih hd

/-- In the last slot there is no room for both slots of a wide constant. -/
theorem isWide_eq_false_of_last {constants : List Constant} {k : Nat} {c : Constant}
    (hslots : slotsOf constants = k + 1) (hlast : (layout constants)[k]? = some (some c)) :
    c.isWide = false := by
  obtain ⟨front, back, rfl, rfl⟩ := PoolBuilder.exists_of_layout hlast
  rw [PoolBuilder.slotsOf_append, slotsOf] at hslots
  cases hwide : c.isWide with
  | false => rfl
  | true =>
    rw [PoolBuilder.width_wide hwide] at hslots
    omega

/-- Constants whose slots sum up to all but slot zero are laid out in the pool that they fill. -/
theorem laidOut_content {count : Nat} {constants : List Constant}
    (h : slotsOf constants = count - 1) :
    LaidOut count constants (PoolBuilder.content ⟨constants⟩) := by
  have hsize : (PoolBuilder.content ⟨constants⟩).slots.size = slotsOf constants + 1 := by
    rw [← PoolBuilder.length_layout]
    rfl
  refine
    { filled := h
      size := ?_
      empty := fun i _ => ?_
      last := fun c hlast => ?_
      get := fun i c => ?_ }
  · rw [hsize, h]
    omega
  · rw [PoolBuilder.getElem?_content, PoolBuilder.getElem?_content]
    cases i with
    | zero => exact iff_of_true rfl (Or.inl rfl)
    | succ k =>
      rw [List.getElem?_cons_succ, or_iff_right (Nat.succ_ne_zero k)]
      have hzero : ∀ c, (none : Option Constant) = some c → c.isWide = false := nofun
      exact layout_eq_none_iff hzero
  · rw [hsize, Nat.add_sub_cancel, PoolBuilder.getElem?_content] at hlast
    cases hslots : slotsOf constants with
    | zero =>
      -- the last slot is slot zero
      rw [hslots] at hlast
      cases hlast
    | succ k =>
      rw [hslots, List.getElem?_cons_succ] at hlast
      exact isWide_eq_false_of_last hslots hlast
  · rw [PoolBuilder.get_content_iff, StartsAt]
    refine (and_iff_right_of_imp ?_).symm
    rintro ⟨front, back, rfl, hi⟩
    rw [PoolBuilder.slotsOf_append, slotsOf] at h
    have hpos := PoolBuilder.width_pos c
    omega

/-! ## What is read -/

/-- What is taken off as a pool is the number of its slots and a form of each of its constants, one
after another, and the constants are laid out in the slots. Conversely, a pool is read from any
forms of constants that fill the counted slots, whatever follows them. -/
theorem read_laidOut :
    (∀ start bytes pool after, ConstantPool.read ⟨start, bytes⟩ = .ok (pool, after) →
      ∃ (count : UInt16) (constants : List Constant) (pieces : List Bytes),
        List.Forall₂ Constant.Form pieces constants ∧
        bytes = word16 count ++ pieces.flatten ++ after.bytes ∧
        after.offset = start + (2 + (pieces.map List.length).sum) ∧
        LaidOut count.toNat constants pool) ∧
    ∀ (count : UInt16) (constants : List Constant) (pieces : List Bytes),
      List.Forall₂ Constant.Form pieces constants → slotsOf constants = count.toNat - 1 →
      ∃ pool, LaidOut count.toNat constants pool ∧
        ∀ start rest, ConstantPool.read ⟨start, word16 count ++ pieces.flatten ++ rest⟩ =
          .ok (pool, ⟨start + (2 + (pieces.map List.length).sum), rest⟩) := by
  have hlength : ∀ (count : UInt16) (pieces : List Bytes),
      (word16 count ++ pieces.flatten).length = 2 + (pieces.map List.length).sum := by
    intro count pieces
    rw [List.length_append, length_word16, List.length_flatten]
  constructor
  · intro start bytes pool after h
    -- the reader moves forward by as many bytes as it takes
    obtain ⟨used, tail, hinput, hafter, -⟩ := Delimited.readPool start bytes pool after h
    rcases bind_eq_ok_iff.1 h with ⟨⟨count, c₁⟩, hcount, h⟩
    rcases bind_eq_ok_iff.1 h with ⟨⟨slots, c₂⟩, hslots, h⟩
    cases h
    obtain ⟨constants, pieces, hforms, hfilled, rfl, hpieces⟩ := exists_of_readSlots hslots
    have hbytes : bytes = word16 count ++ pieces.flatten ++ after.bytes := by
      rw [List.append_assoc, ← hpieces]
      exact u2_eq_ok hcount
    have hused : used = word16 count ++ pieces.flatten := by
      rw [hinput, hafter] at hbytes
      exact List.append_cancel_right hbytes
    refine ⟨count, constants, pieces, hforms, hbytes, ?_, laidOut_content hfilled⟩
    rw [hafter, hused, hlength]
  · intro count constants pieces hforms hfilled
    refine ⟨_, laidOut_content hfilled, fun start rest => ?_⟩
    have hreads := PoolBuilder.reads_content (q := ⟨constants⟩) hfilled
      (hforms.imp fun _ _ h => h.reads)
    rw [hreads, hlength]

/-- A wide constant, whose second slot is empty, and a text of one character spelled in two bytes
instead of one. -/
theorem read_laidOut_wide :
    ∃ pool, ConstantPool.read ⟨0, [0, 4, 5, 0, 0, 0, 0, 0, 0, 0, 42, 1, 0, 2, 0xC1, 0x81, 7]⟩ =
        .ok (pool, ⟨16, [7]⟩) ∧
      pool.slots.size = 4 ∧ pool.get 1 = .ok (.long 42) ∧ (∀ c, pool.get 2 ≠ .ok c) ∧
      pool.get 3 = .ok (.utf8 "A") := by
  have htext : Constant.Form [1, 0, 2, 0xC1, 0x81] (.utf8 "A") := by
    have hgroup : Text.ModifiedUtf8.IsGroup [0xC1, 0x81] 0x41 := .two (by decide) (by decide)
    have hsplits : Text.ModifiedUtf8.Splits Text.ModifiedUtf8.IsGroup [0xC1, 0x81] [0x41] :=
      .cons hgroup .nil
    exact .text (by decide) hsplits (.char 'A' .nil)
  have hlong : Constant.Form [5, 0, 0, 0, 0, 0, 0, 0, 42] (.long 42) :=
    .of_encode (.long 42) nofun (by decide)
  obtain ⟨pool, hpool, hread⟩ :=
    read_laidOut.2 4 [.long 42, .utf8 "A"] _ (.cons hlong (.cons htext .nil)) rfl
  have hfirst : pool.get 1 = .ok (.long 42) :=
    (hpool.get 1 _).2 ⟨by decide, [], [.utf8 "A"], rfl, rfl⟩
  have hlast : pool.get 3 = .ok (.utf8 "A") :=
    (hpool.get 3 _).2 ⟨by decide, [.long 42], [], rfl, rfl⟩
  have hsecond : pool.slots[2]? = some none := by
    refine (hpool.empty 2 ?_).2 (Or.inr ⟨_, Assembly.get_eq_ok_iff.1 hfirst, rfl⟩)
    rw [hpool.size]
    decide
  refine ⟨pool, hread 0 [7], hpool.size, hfirst, fun c hc => ?_, hlast⟩
  cases hsecond.symm.trans (Assembly.get_eq_ok_iff.1 hc)

/-- A pool that counts no slots has slot zero nevertheless. -/
example : (ConstantPool.read ⟨0, [0, 0, 7]⟩).map (fun result => (result.1.slots, result.2)) =
    .ok (#[none], ⟨2, [7]⟩) := rfl

end ConstantPool

end TypeAtlas.ClassFile
