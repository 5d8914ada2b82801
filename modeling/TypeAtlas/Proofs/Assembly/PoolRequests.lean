import Mathlib.Data.List.Nodup
import TypeAtlas.Proofs.Assembly.Content
import TypeAtlas.Proofs.Assembly.Pool

/-!
# Pools made for a sequence of requests

Whatever is asked of a pool builder, in whatever order, the pool that is read back from its bytes
answers at every index that was handed out (`answers_of_requests`). The builder counts slots and the
reader counts constants; both follow `ConstantPool.layout`, so an index leads to the constant that
has as many slots before it (`get_content_iff`). No constant is entered twice (`Tidy`), so an index
and its constant determine each other (`get_inj`).
-/

set_option autoImplicit false

namespace TypeAtlas.Assembly

open ClassFile (Constant ConstantPool PoolIndex MemberRefKind)

namespace PoolBuilder

/-! ## Lookups in the finished pool -/

variable {q : PoolBuilder} {i j : PoolIndex} {c d : Constant}

theorem get_eq_error (h : ∀ c, q.content.slots[i.toNat]? ≠ some (some c)) :
    q.content.get i = .error (.noConstant i) := by
  unfold ConstantPool.get
  split
  · rename_i hslot
    exact absurd hslot (h _)
  · rfl

/-- An index and its constant determine each other in a pool without repetitions. -/
theorem get_inj (hq : q.constants.Nodup) (hi : q.content.get i = .ok c)
    (hj : q.content.get j = .ok d) : i = j ↔ c = d := by
  constructor
  · rintro rfl
    exact Except.ok.inj (hi.symm.trans hj)
  · rintro rfl
    obtain ⟨front, back, hsplit, hi⟩ := get_content_iff.1 hi
    obtain ⟨front', back', hsplit', hj⟩ := get_content_iff.1 hj
    rw [hsplit] at hq
    obtain ⟨hother, -⟩ := List.nodup_cons.1 (List.nodup_middle.1 hq)
    rw [List.mem_append, not_or] at hother
    have hfront : front = front' :=
      ((List.append_cons_inj_of_notMem hother.1 hother.2).1 (hsplit.symm.trans hsplit')).1
    rw [← UInt16.toNat_inj, hi, hj, hfront]

theorem get_zero (q : PoolBuilder) : q.content.get 0 = .error (.noConstant 0) := by
  refine get_eq_error fun c hslot => ?_
  rw [getElem?_content] at hslot
  cases hslot

/-- The second slot of a wide constant is empty. -/
theorem get_second (hq : q.Fits) (hi : q.content.get i = .ok c) (hwide : c.isWide = true) :
    q.content.get (i + 1) = .error (.noConstant (i + 1)) := by
  obtain ⟨front, back, hsplit, hi⟩ := get_content_iff.1 hi
  have hslots := hq.slots
  rw [hsplit, slotsOf_append, slotsOf, width_wide hwide] at hslots
  have hnat : (i + 1).toNat = slotsOf front + 2 := by
    rw [UInt16.toNat_add, hi]
    show (slotsOf front + 1 + 1) % 65536 = _
    omega
  refine get_eq_error fun d hslot => ?_
  rw [getElem?_content, hnat, List.getElem?_cons_succ, hsplit, ConstantPool.layout_append,
    ConstantPool.layout_wide hwide, ← length_layout,
    List.getElem?_append_right (Nat.le_add_right _ 1), Nat.add_sub_cancel_left] at hslot
  cases hslot

theorem get_beyond (h : q.next ≤ i.toNat) : q.content.get i = .error (.noConstant i) := by
  refine get_eq_error fun d hslot => ?_
  have hlength : (none :: ConstantPool.layout q.constants).length ≤ i.toNat := by
    rw [List.length_cons, length_layout, Nat.add_comm]
    exact h
  rw [getElem?_content, List.getElem?_eq_none hlength] at hslot
  cases hslot

end PoolBuilder

/-! ## What requests keep -/

section Keeps

variable {α β : Type} {I : PoolBuilder → Prop}

/-- What holds of a pool still holds when a computation is done with it. -/
def Keeps (I : PoolBuilder → Prop) (w : Assembler α) : Prop := ∀ p, I p → I (w p).2

theorem Keeps.bind {w : Assembler α} {f : α → Assembler β} (hw : Keeps I w)
    (hf : ∀ a, Keeps I (f a)) : Keeps I (w >>= f) :=
  fun p hp => hf (w p).1 (w p).2 (hw p hp)

theorem Keeps.mapM {f : α → Assembler β} {list : List α} (h : ∀ a ∈ list, Keeps I (f a)) :
    Keeps I (list.mapM f) := by
  induction list with
  | nil =>
    rw [List.mapM_nil]
    exact fun p hp => hp
  | cons a rest ih =>
    rw [List.mapM_cons]
    refine (h a List.mem_cons_self).bind fun b => ?_
    exact (ih fun c hc => h c (List.mem_cons_of_mem a hc)).bind fun others p hp => hp

end Keeps

/-- Every constant stands in the pool once, and none is too long. -/
structure Tidy (p : PoolBuilder) : Prop where
  nodup : p.constants.Nodup
  fits : ∀ c ∈ p.constants, c.Fits

theorem indexFrom_eq_none {start : Nat} {constants : List Constant} {c : Constant}
    (h : PoolBuilder.indexFrom start constants c = none) : c ∉ constants := by
  induction constants generalizing start with
  | nil => exact List.not_mem_nil
  | cons d rest ih =>
    rw [PoolBuilder.indexFrom] at h
    split at h
    · cases h
    · rename_i hd
      exact List.not_mem_cons_of_ne_of_not_mem (Ne.symm hd) (ih h)

/-- A constant is entered only if it is not there yet. -/
theorem keeps_add {c : Constant} (hc : c.Fits) : Keeps Tidy (PoolBuilder.add c) := by
  intro p hp
  unfold PoolBuilder.add
  cases hfound : PoolBuilder.indexFrom 1 p.constants c with
  | some i => exact hp
  | none =>
    have hnodup : (p.constants ++ [c]).Nodup := by
      rw [← List.concat_eq_append]
      exact hp.nodup.concat (indexFrom_eq_none hfound)
    refine ⟨hnodup, fun d hd => ?_⟩
    obtain hd | hd := List.mem_append.1 hd
    · exact hp.fits d hd
    · rw [List.mem_singleton.1 hd]
      exact hc

theorem keeps_utf8 {text : String} (h : (Text.ModifiedUtf8.encode text).length ≤ 65535) :
    Keeps Tidy (PoolBuilder.utf8 text) :=
  keeps_add h

theorem keeps_classRef {name : String} (h : (Text.ModifiedUtf8.encode name).length ≤ 65535) :
    Keeps Tidy (PoolBuilder.classRef name) :=
  (keeps_utf8 h).bind fun _ => keeps_add (Nat.zero_le _)

theorem keeps_nameAndType {name descriptor : String}
    (hname : (Text.ModifiedUtf8.encode name).length ≤ 65535)
    (hdescriptor : (Text.ModifiedUtf8.encode descriptor).length ≤ 65535) :
    Keeps Tidy (PoolBuilder.nameAndType name descriptor) :=
  (keeps_utf8 hname).bind fun _ =>
    (keeps_utf8 hdescriptor).bind fun _ => keeps_add (Nat.zero_le _)

/-! ## Requests -/

/-- A call on a pool under construction. The owner of a member is a binary name or an array
descriptor. -/
inductive Request where
  | utf8 (text : String)
  | classRef (internalName : String)
  | nameAndType (name descriptor : String)
  | memberRef (kind : MemberRefKind) (owner name descriptor : String)
  | constant (c : Constant)
  deriving DecidableEq, Repr

namespace Request

/-- Makes the call. -/
def run : Request → Assembler PoolIndex
  | .utf8 text => PoolBuilder.utf8 text
  | .classRef name => PoolBuilder.classRef name
  | .nameAndType name descriptor => PoolBuilder.nameAndType name descriptor
  | .memberRef kind owner name descriptor => PoolBuilder.memberRef kind owner name descriptor
  | .constant c => PoolBuilder.add c

/-- The texts that a call passes. -/
def texts : Request → List String
  | .utf8 text => [text]
  | .classRef name => [name]
  | .nameAndType name descriptor => [name, descriptor]
  | .memberRef _ owner name descriptor => [owner, name, descriptor]
  | .constant (.utf8 text) => [text]
  | .constant _ => []

/-- The constant that a call asks for in the end; the indices in it lead to the names. -/
def Passes (pool : ConstantPool) : Request → Constant → Prop
  | .utf8 text, c => c = .utf8 text
  | .classRef name, c => ∃ n, pool.getUtf8 n = .ok name ∧ c = .classRef n
  | .nameAndType name descriptor, c =>
    ∃ n d, pool.getUtf8 n = .ok name ∧ pool.getUtf8 d = .ok descriptor ∧ c = .nameAndType n d
  | .memberRef kind owner name descriptor, c =>
    ∃ o nat, pool.getClassName o = .ok (Text.internalName owner) ∧
      pool.getNameAndType nat = .ok (name, descriptor) ∧
      c = PoolBuilder.referenceConstant kind o nat
  | .constant d, c => c = d

/-- The lookup that belongs to a call returns what was passed. -/
def Named (pool : ConstantPool) : Request → PoolIndex → Prop
  | .utf8 text, i => pool.getUtf8 i = .ok text
  | .classRef name, i => pool.getClassName i = .ok name
  | .nameAndType name descriptor, i => pool.getNameAndType i = .ok (name, descriptor)
  | .memberRef kind owner name descriptor, i =>
    pool.getMemberRef i = .ok ⟨kind, Text.internalName owner, name, descriptor⟩
  | .constant c, i => pool.get i = .ok c

theorem Named.exists_passes {pool : ConstantPool} {r : Request} {i : PoolIndex}
    (h : r.Named pool i) : ∃ c, r.Passes pool c ∧ pool.get i = .ok c := by
  cases r with
  | utf8 text => exact ⟨_, rfl, getUtf8_eq_ok_iff.1 h⟩
  | classRef name =>
    obtain ⟨n, hname, hget⟩ := getClassName_eq_ok_iff.1 h
    exact ⟨_, ⟨n, hname, rfl⟩, hget⟩
  | nameAndType name descriptor =>
    obtain ⟨n, d, hname, hdescriptor, hget⟩ := getNameAndType_eq_ok_iff.1 h
    exact ⟨_, ⟨n, d, hname, hdescriptor, rfl⟩, hget⟩
  | memberRef kind owner name descriptor =>
    obtain ⟨o, nat, howner, hnames, hget⟩ := getMemberRef_eq_ok_iff.1 h
    exact ⟨_, ⟨o, nat, howner, hnames, rfl⟩, hget⟩
  | constant c => exact ⟨c, rfl, h⟩

section Finished

variable {q : PoolBuilder}

theorem getUtf8_inj (hq : q.constants.Nodup) {i j : PoolIndex} {text : String}
    (hi : q.content.getUtf8 i = .ok text) (hj : q.content.getUtf8 j = .ok text) : i = j :=
  (PoolBuilder.get_inj hq (getUtf8_eq_ok_iff.1 hi) (getUtf8_eq_ok_iff.1 hj)).2 rfl

theorem getClassName_inj (hq : q.constants.Nodup) {i j : PoolIndex} {name : String}
    (hi : q.content.getClassName i = .ok name) (hj : q.content.getClassName j = .ok name) :
    i = j := by
  obtain ⟨n, hn, hi⟩ := getClassName_eq_ok_iff.1 hi
  obtain ⟨m, hm, hj⟩ := getClassName_eq_ok_iff.1 hj
  rw [getUtf8_inj hq hn hm] at hi
  exact (PoolBuilder.get_inj hq hi hj).2 rfl

theorem getNameAndType_inj (hq : q.constants.Nodup) {i j : PoolIndex} {name descriptor : String}
    (hi : q.content.getNameAndType i = .ok (name, descriptor))
    (hj : q.content.getNameAndType j = .ok (name, descriptor)) : i = j := by
  obtain ⟨n, d, hn, hd, hi⟩ := getNameAndType_eq_ok_iff.1 hi
  obtain ⟨m, e, hm, he, hj⟩ := getNameAndType_eq_ok_iff.1 hj
  rw [getUtf8_inj hq hn hm, getUtf8_inj hq hd he] at hi
  exact (PoolBuilder.get_inj hq hi hj).2 rfl

/-- Names are entered once, so a call can only mean one constant. -/
theorem Passes.unique (hq : q.constants.Nodup) {r : Request} {c d : Constant}
    (hc : r.Passes q.content c) (hd : r.Passes q.content d) : c = d := by
  cases r with
  | utf8 text => exact hc.trans hd.symm
  | classRef name =>
    obtain ⟨n, hn, rfl⟩ := hc
    obtain ⟨m, hm, rfl⟩ := hd
    rw [getUtf8_inj hq hn hm]
  | nameAndType name descriptor =>
    obtain ⟨n, t, hn, ht, rfl⟩ := hc
    obtain ⟨m, u, hm, hu, rfl⟩ := hd
    rw [getUtf8_inj hq hn hm, getUtf8_inj hq ht hu]
  | memberRef kind owner name descriptor =>
    obtain ⟨o, nat, ho, hnat, rfl⟩ := hc
    obtain ⟨o', nat', ho', hnat', rfl⟩ := hd
    rw [getClassName_inj hq ho ho', getNameAndType_inj hq hnat hnat']
  | constant e => exact hc.trans hd.symm

theorem ensures_run (hq : q.Fits) (r : Request) : Ensures q r.run (r.Named q.content) := by
  cases r with
  | utf8 text => exact (PoolBuilder.ensures_utf8 hq text).weaken fun _ h => h.1
  | classRef name => exact (PoolBuilder.ensures_classRef hq name).weaken fun _ h => h.1
  | nameAndType name descriptor =>
    exact (PoolBuilder.ensures_nameAndType hq name descriptor).weaken fun _ h => h.1
  | memberRef kind owner name descriptor =>
    exact PoolBuilder.ensures_memberRef hq kind owner name descriptor
  | constant c => exact (PoolBuilder.ensures_add hq c).weaken fun _ h => h.1

end Finished

/-- An owner is as long in internal form. -/
theorem length_encode_internalName (name : String) :
    (Text.ModifiedUtf8.encode (Text.internalName name)).length =
      (Text.ModifiedUtf8.encode name).length := by
  unfold Text.internalName
  split
  · rfl
  -- a dot and a slash take one byte each
  · unfold Text.ModifiedUtf8.encode Text.Utf16.encode
    rw [toList_replaceChar]
    induction name.toList with
    | nil => rfl
    | cons c rest ih =>
      rw [List.map_cons, List.flatMap_cons, List.flatMap_cons, List.flatMap_append,
        List.flatMap_append, List.length_append, List.length_append, ih]
      by_cases hdot : c = '.'
      · rw [if_pos hdot, hdot]
        rfl
      · rw [if_neg hdot]

theorem keeps_run {r : Request}
    (h : ∀ text ∈ r.texts, (Text.ModifiedUtf8.encode text).length ≤ 65535) :
    Keeps Tidy r.run := by
  cases r with
  | utf8 text => exact keeps_utf8 (h text List.mem_cons_self)
  | classRef name => exact keeps_classRef (h name List.mem_cons_self)
  | nameAndType name descriptor =>
    rw [texts, List.forall_mem_cons, List.forall_mem_singleton] at h
    exact keeps_nameAndType h.1 h.2
  | memberRef kind owner name descriptor =>
    rw [texts, List.forall_mem_cons, List.forall_mem_cons, List.forall_mem_singleton] at h
    obtain ⟨howner, hname, hdescriptor⟩ := h
    rw [← length_encode_internalName] at howner
    refine (keeps_classRef howner).bind fun o => ?_
    refine (keeps_nameAndType hname hdescriptor).bind fun nat => keeps_add ?_
    cases kind <;> exact Nat.zero_le _
  | constant c =>
    apply keeps_add
    cases c with
    | utf8 text => exact h text List.mem_cons_self
    | _ => exact Nat.zero_le _

end Request

/-! ## Whole pools -/

/-- Makes one call after another on an empty pool; returns the indices and the pool. -/
def answer (requests : List Request) : List PoolIndex × PoolBuilder :=
  requests.mapM Request.run {}

/-- What a pool says at the indices that calls returned, and at those that hold nothing. -/
structure Answers (pool : ConstantPool) (next : Nat) (requests : List Request)
    (indices : List PoolIndex) : Prop where
  /-- An index leads to the constant that was asked for. -/
  held : List.Forall₂ (fun r i => ∃ c, r.Passes pool c ∧ pool.get i = .ok c) requests indices
  /-- The lookup that belongs to a call returns the names that were passed. -/
  named : List.Forall₂ (Request.Named pool) requests indices
  /-- Calls get the same index exactly if they ask for the same constant. -/
  numbered : ∀ {r s i j c d}, (r, i) ∈ requests.zip indices → (s, j) ∈ requests.zip indices →
    r.Passes pool c → s.Passes pool d → (i = j ↔ c = d)
  /-- So do the calls that were made on the way. -/
  shared : ∀ {i j c d}, pool.get i = .ok c → pool.get j = .ok d → (i = j ↔ c = d)
  zero : pool.get 0 = .error (.noConstant 0)
  second : ∀ {i c}, pool.get i = .ok c → c.isWide = true →
    pool.get (i + 1) = .error (.noConstant (i + 1))
  beyond : ∀ {i : PoolIndex}, next ≤ i.toNat → pool.get i = .error (.noConstant i)

theorem tidy_answer {requests : List Request} (h : ∀ r ∈ requests, ∀ text ∈ r.texts,
    (Text.ModifiedUtf8.encode text).length ≤ 65535) : Tidy (answer requests).2 :=
  (Keeps.mapM fun r hr => Request.keeps_run (h r hr)) {}
    ⟨List.nodup_nil, fun _ hc => absurd hc List.not_mem_nil⟩

theorem named_answer {requests : List Request} (h : (answer requests).2.Fits) :
    List.Forall₂ (Request.Named (answer requests).2.content) requests (answer requests).1 := by
  have hall : List.Forall₂ (fun r s => Ensures (answer requests).2 r.run fun i =>
      s.Named (answer requests).2.content i) requests requests :=
    List.forall₂_same.2 fun r _ => Request.ensures_run h r
  exact ((Ensures.mapM hall) {} List.prefix_rfl).2.flip

/-- Whatever is asked of a pool, its bytes are read back, whatever follows them, as a pool that
answers at every index that was handed out and at no index that holds nothing. -/
theorem answers_of_requests (requests : List Request)
    (htexts : ∀ r ∈ requests, ∀ text ∈ r.texts, (Text.ModifiedUtf8.encode text).length ≤ 65535)
    (hslots : PoolBuilder.slotsOf (answer requests).2.constants ≤ 65534) :
    ∃ pool,
      (∀ offset rest, ConstantPool.read ⟨offset, (answer requests).2.write ++ rest⟩ =
        .ok (pool, ⟨offset + (answer requests).2.write.length, rest⟩)) ∧
      Answers pool (answer requests).2.next requests (answer requests).1 := by
  have htidy := tidy_answer htexts
  have hfits : (answer requests).2.Fits := ⟨hslots, htidy.fits⟩
  have hnamed := named_answer hfits
  refine ⟨_, PoolBuilder.reads_write hfits, ?_⟩
  refine
    { held := hnamed.imp fun _ _ h => h.exists_passes
      named := hnamed
      numbered := fun hr hs hc hd => ?_
      shared := PoolBuilder.get_inj htidy.nodup
      zero := PoolBuilder.get_zero _
      second := PoolBuilder.get_second hfits
      beyond := PoolBuilder.get_beyond }
  obtain ⟨c', hc', hi⟩ := (List.forall₂_zip hnamed hr).exists_passes
  obtain ⟨d', hd', hj⟩ := (List.forall₂_zip hnamed hs).exists_passes
  rw [Request.Passes.unique htidy.nodup hc hc', Request.Passes.unique htidy.nodup hd hd']
  exact PoolBuilder.get_inj htidy.nodup hi hj

/-- A class that is asked for twice and a wide constant at the end: the class keeps the index it got
as the owner of a method, and the slot behind the wide constant is the last one. -/
theorem answers_of_overlapping_requests :
    ∃ pool : ConstantPool,
      pool.getMemberRef 6 = .ok ⟨.method, "a/B", "f", "()V"⟩ ∧ pool.getClassName 2 = .ok "a/B" ∧
        pool.get 7 = .ok (.long 5) ∧ pool.get 8 = .error (.noConstant 8) := by
  obtain ⟨pool, -, hpool⟩ := answers_of_requests
    [.memberRef .method "a.B" "f" "()V", .classRef "a/B", .constant (.long 5)]
    (by decide) (by decide)
  have hindices : (answer [.memberRef .method "a.B" "f" "()V", .classRef "a/B",
      .constant (.long 5)]).1 = [6, 2, 7] := by decide
  have hnamed := hpool.named
  rw [hindices] at hnamed
  simp only [List.forall₂_cons] at hnamed
  obtain ⟨hmember, hclass, hlong, -⟩ := hnamed
  exact ⟨pool, hmember, hclass, hlong, hpool.second hlong rfl⟩

end TypeAtlas.Assembly
