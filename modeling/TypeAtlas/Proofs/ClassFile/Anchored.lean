import TypeAtlas.ClassFile.Basic
import TypeAtlas.Proofs.ClassFile.Reads
import TypeAtlas.Proofs.ClassFile.Unplaced

/-!
# Readers and the places of their faults

A reader is `Anchored` if it moves forward through the bytes at hand, if a fault of it that points
at a place points at one among these bytes, and if it does the same wherever the bytes stand in a
file, up to the places it points at. All readers of the sections of a class file are anchored, and
so are those of the bodies of attributes, at any depth.
-/

set_option autoImplicit false

namespace TypeAtlas

/-- A fault as it is seen from `k` bytes further to the front. -/
def Fault.shiftedBy (k : Nat) : Fault → Fault
  | .unexpectedEnd offset needed => .unexpectedEnd (k + offset) needed
  | .trailingBytes offset remaining => .trailingBytes (k + offset) remaining
  | fault => fault

theorem Fault.shiftedBy_eq_self {fault : Fault} (h : fault.offset? = none) (k : Nat) :
    fault.shiftedBy k = fault := by
  cases fault with
  | unexpectedEnd offset needed => cases h
  | trailingBytes offset remaining => cases h
  | _ => rfl

namespace ClassFile

/-- Where the bytes at hand end. -/
def Cursor.limit (c : Cursor) : Nat := c.offset + c.bytes.length

/-- The same bytes, `k` places further on. -/
def Cursor.shift (k : Nat) (c : Cursor) : Cursor := ⟨k + c.offset, c.bytes⟩

/-- A position is reached from another one by reading some bytes. -/
def Advances (c c' : Cursor) : Prop :=
  ∃ used, c.bytes = used ++ c'.bytes ∧ c'.offset = c.offset + used.length

theorem Advances.refl (c : Cursor) : Advances c c := ⟨[], rfl, rfl⟩

theorem Advances.trans {c c' c'' : Cursor} (h : Advances c c') (h' : Advances c' c'') :
    Advances c c'' := by
  obtain ⟨used, hbytes, hoffset⟩ := h
  obtain ⟨used', hbytes', hoffset'⟩ := h'
  refine ⟨used ++ used', ?_, ?_⟩
  · rw [hbytes, hbytes', List.append_assoc]
  · rw [hoffset', hoffset, List.length_append, Nat.add_assoc]

theorem Advances.limit_eq {c c' : Cursor} (h : Advances c c') : c'.limit = c.limit := by
  obtain ⟨used, hbytes, hoffset⟩ := h
  unfold Cursor.limit
  rw [hbytes, hoffset, List.length_append, Nat.add_assoc]

theorem Advances.offset_le {c c' : Cursor} (h : Advances c c') : c.offset ≤ c'.offset := by
  obtain ⟨used, -, hoffset⟩ := h
  rw [hoffset]
  exact Nat.le_add_right _ _

/-- A position that is reached from the start of an input stands before what is left of it. -/
theorem Advances.eq_drop {bytes : Bytes} {c : Cursor} (h : Advances ⟨0, bytes⟩ c) :
    c = ⟨c.offset, bytes.drop c.offset⟩ ∧ c.offset ≤ bytes.length := by
  obtain ⟨offset, rest⟩ := c
  obtain ⟨used, hbytes, hoffset⟩ := h
  change bytes = used ++ rest at hbytes
  change offset = 0 + used.length at hoffset
  rw [Nat.zero_add] at hoffset
  subst hbytes hoffset
  refine ⟨?_, ?_⟩
  · rw [List.drop_left]
  · rw [List.length_append]
    exact Nat.le_add_right _ _

/-! ## Primitive readers -/

section Primitives

variable {α : Type} {result : Except Fault α} {c c' : Cursor}

theorem lift_eq_ok_iff {value : α} :
    Reader.lift result c = .ok (value, c') ↔ result = .ok value ∧ c' = c := by
  cases result with
  | error fault =>
    constructor
    · intro h
      cases h
    · rintro ⟨h, -⟩
      cases h
  | ok value' =>
    constructor
    · intro h
      cases h
      exact ⟨rfl, rfl⟩
    · rintro ⟨h, rfl⟩
      cases h
      rfl

theorem lift_eq_error_iff {fault : Fault} :
    Reader.lift result c = .error fault ↔ result = .error fault := by
  cases result with
  | error fault' =>
    constructor
    · intro h
      cases h
      rfl
    · intro h
      cases h
      rfl
  | ok value =>
    constructor
    · intro h
      cases h
    · intro h
      cases h

/-- What is taken off the front stands there. -/
theorem take_eq_ok {n : Nat} {body : Bytes} (h : Reader.take n c = .ok (body, c')) :
    c.bytes = body ++ c'.bytes ∧ body.length = n ∧ c'.offset = c.offset + n := by
  unfold Reader.take at h
  split at h
  · rename_i front rest hsplit
    obtain ⟨hbytes, hlength⟩ := splitExactly_eq_some_iff.1 hsplit
    cases h
    exact ⟨hbytes, hlength, rfl⟩
  · cases h

end Primitives

/-! ## Anchored readers -/

section Anchored

variable {α β : Type}

/-- If a fault points at a place, then at one from `low` up to `high`. -/
def Fault.Within (low high : Nat) (fault : Fault) : Prop :=
  ∀ place, fault.offset? = some place → low ≤ place ∧ place ≤ high

theorem Fault.Within.of_unplaced {fault : Fault} (h : fault.offset? = none) (low high : Nat) :
    Fault.Within low high fault := by
  intro place hplace
  rw [h] at hplace
  cases hplace

theorem Fault.Within.mono {fault : Fault} {low low' high high' : Nat}
    (h : Fault.Within low high fault) (hlow : low' ≤ low) (hhigh : high ≤ high') :
    Fault.Within low' high' fault := by
  intro place hplace
  obtain ⟨hge, hle⟩ := h place hplace
  exact ⟨Nat.le_trans hlow hge, Nat.le_trans hle hhigh⟩

/-- What a reader makes of the same bytes `k` places further on. -/
def shiftOutcome (k : Nat) : Except Fault (α × Cursor) → Except Fault (α × Cursor)
  | .ok (value, rest) => .ok (value, rest.shift k)
  | .error fault => .error (fault.shiftedBy k)

/-- A reader moves forward, blames places among the bytes at hand, and does not depend on where
these bytes stand. -/
structure Anchored (m : Reader α) : Prop where
  advances : ∀ {c value rest}, m c = .ok (value, rest) → Advances c rest
  within : ∀ {c fault}, m c = .error fault → Fault.Within c.offset c.limit fault
  shift : ∀ k c, m (c.shift k) = shiftOutcome k (m c)

theorem Anchored.pure (value : α) : Anchored (pure value : Reader α) where
  advances h := by
    cases h
    exact Advances.refl _
  within h := by cases h
  shift _ _ := rfl

theorem Anchored.bind {m : Reader α} {f : α → Reader β} (hm : Anchored m)
    (hf : ∀ value, Anchored (f value)) : Anchored (m >>= f) where
  advances := by
    intro c result rest h
    obtain ⟨⟨value, middle⟩, hfirst, hsecond⟩ := bind_eq_ok_iff.1 h
    exact (hm.advances hfirst).trans ((hf value).advances hsecond)
  within := by
    intro c fault h
    rcases bind_eq_error_iff.1 h with hfirst | ⟨⟨value, middle⟩, hfirst, hsecond⟩
    · exact hm.within hfirst
    · -- the second reader starts further on, and its bytes end where those at hand do
      have hmoved := hm.advances hfirst
      exact ((hf value).within hsecond).mono hmoved.offset_le (Nat.le_of_eq hmoved.limit_eq)
  shift := by
    intro k c
    show (m (c.shift k) >>= fun p => f p.1 p.2) = shiftOutcome k (m c >>= fun p => f p.1 p.2)
    rw [hm.shift]
    cases m c with
    | error fault => rfl
    | ok p => exact (hf p.1).shift k p.2

theorem Anchored.map {m : Reader α} (hm : Anchored m) (f : α → β) : Anchored (f <$> m) := by
  rw [map_eq_pure_bind]
  exact hm.bind fun value => Anchored.pure (f value)

/-- A computation that reads nothing is anchored if its faults point nowhere. -/
theorem Anchored.lift {result : Except Fault α} (h : Unplaced result) :
    Anchored (Reader.lift result) := by
  cases result with
  | ok value => exact Anchored.pure value
  | error fault =>
    have hnone : fault.offset? = none := h fault rfl
    constructor
    · intro c value rest hrun
      cases hrun
    · intro c fault' hrun
      cases hrun
      exact Fault.Within.of_unplaced hnone _ _
    · intro k c
      show Except.error fault = .error (fault.shiftedBy k)
      rw [Fault.shiftedBy_eq_self hnone]

theorem Anchored.fail {fault : Fault} (h : fault.offset? = none) :
    Anchored (Reader.fail fault : Reader α) :=
  Anchored.lift (Unplaced.error h)

theorem Anchored.take (n : Nat) : Anchored (Reader.take n) where
  advances := by
    intro c value rest h
    obtain ⟨hbytes, hlength, hoffset⟩ := take_eq_ok h
    exact ⟨value, hbytes, by rw [hoffset, hlength]⟩
  within := by
    intro c fault h place hplace
    unfold Reader.take at h
    split at h
    · cases h
    · cases h
      cases hplace
      exact ⟨Nat.le_refl _, Nat.le_add_right _ _⟩
  shift := by
    intro k c
    show Reader.take n ⟨k + c.offset, c.bytes⟩ = shiftOutcome k (Reader.take n c)
    rw [Reader.take, Reader.take]
    cases splitExactly n c.bytes with
    | none => rfl
    | some parts =>
      show Except.ok (parts.1, Cursor.mk (k + c.offset + n) parts.2) =
        .ok (parts.1, ⟨k + (c.offset + n), parts.2⟩)
      rw [Nat.add_assoc]

theorem Anchored.expectEnd : Anchored Reader.expectEnd where
  advances := by
    intro c value rest h
    unfold Reader.expectEnd at h
    split at h
    · cases h
      exact Advances.refl _
    · cases h
  within := by
    intro c fault h place hplace
    unfold Reader.expectEnd at h
    split at h
    · cases h
    · cases h
      cases hplace
      exact ⟨Nat.le_refl _, Nat.le_add_right _ _⟩
  shift := by
    rintro k ⟨offset, bytes⟩
    cases bytes with
    | nil => rfl
    | cons b rest => rfl

theorem Anchored.number (n : Nat) : Anchored (Reader.number n) := (Anchored.take n).map ofBigEndian

theorem Anchored.u1 : Anchored Reader.u1 := (Anchored.number 1).map UInt8.ofNat

theorem Anchored.u2 : Anchored Reader.u2 := (Anchored.number 2).map UInt16.ofNat

theorem Anchored.u4 : Anchored Reader.u4 := (Anchored.number 4).map UInt32.ofNat

theorem Anchored.u8 : Anchored Reader.u8 :=
  (Anchored.number 4).bind fun _ => (Anchored.number 4).bind fun _ => Anchored.pure _

/-- An index, and what it leads to. -/
theorem Anchored.index {look : UInt16 → Except Fault α} (h : ∀ index, Unplaced (look index)) :
    Anchored (do Reader.lift (look (← Reader.u2))) :=
  Anchored.u2.bind fun index => Anchored.lift (h index)

theorem Anchored.index_bind {look : UInt16 → Except Fault α} {f : α → Reader β}
    (h : ∀ index, Unplaced (look index)) (hf : ∀ value, Anchored (f value)) :
    Anchored (do f (← Reader.lift (look (← Reader.u2)))) :=
  Anchored.u2.bind fun index => (Anchored.lift (h index)).bind hf

theorem Anchored.times {item : Reader α} (h : Anchored item) (n : Nat) :
    Anchored (Reader.times n item) := by
  induction n with
  | zero => exact Anchored.pure []
  | succ n ih => exact h.bind fun _ => ih.bind fun _ => Anchored.pure _

theorem Anchored.table {item : Reader α} (h : Anchored item) : Anchored (Reader.table item) :=
  Anchored.u2.bind fun count => h.times count.toNat

/-- A reader may look at how many bytes are left. -/
theorem Anchored.of_length {m : Nat → Reader α} (h : ∀ n, Anchored (m n)) :
    Anchored fun c => m c.bytes.length c where
  advances hrun := (h _).advances hrun
  within hrun := (h _).within hrun
  shift k c := (h c.bytes.length).shift k c

/-! ## Bodies of attributes -/

/-- What is made of a body that starts at a place, on its own. -/
structure AnchoredBody (verdict : Nat → Bytes → Except Fault α) : Prop where
  within : ∀ {start body fault}, verdict start body = .error fault →
    Fault.Within start (start + body.length) fault
  shift : ∀ k start body,
    verdict (k + start) body = (verdict start body).mapError (Fault.shiftedBy k)

theorem AnchoredBody.ok (value : α) : AnchoredBody fun _ _ => (.ok value : Except Fault α) := by
  constructor
  · intro start body fault herror
    cases herror
  · intro k start body
    rfl

theorem AnchoredBody.error {fault : Fault} (h : fault.offset? = none) :
    AnchoredBody fun _ _ => (.error fault : Except Fault α) := by
  constructor
  · intro start body fault' herror
    cases herror
    exact Fault.Within.of_unplaced h _ _
  · intro k start body
    show Except.error fault = .error (fault.shiftedBy k)
    rw [Fault.shiftedBy_eq_self h]

theorem AnchoredBody.map {verdict : Nat → Bytes → Except Fault α} (h : AnchoredBody verdict)
    (f : α → β) : AnchoredBody fun start body => (verdict start body).map f := by
  constructor
  · intro start body fault herror
    cases hresult : verdict start body with
    | ok value =>
      rw [hresult] at herror
      cases herror
    | error fault' =>
      rw [hresult] at herror
      cases herror
      exact h.within hresult
  · intro k start body
    rw [h.shift]
    cases verdict start body with
    | error fault => rfl
    | ok value => rfl

/-- What a reader makes of a body. -/
theorem AnchoredBody.of_run {m : Reader α} (h : Anchored m) :
    AnchoredBody fun start body => (m ⟨start, body⟩).map Prod.fst := by
  constructor
  · intro start body fault herror
    cases hresult : m ⟨start, body⟩ with
    | ok p =>
      rw [hresult] at herror
      cases herror
    | error fault' =>
      rw [hresult] at herror
      cases herror
      exact h.within hresult
  · intro k start body
    show (m (Cursor.shift k ⟨start, body⟩)).map Prod.fst = _
    rw [h.shift]
    cases m ⟨start, body⟩ with
    | error fault => rfl
    | ok p => rfl

/-- A body is read to its end by a reader of its own, which starts where the body does. -/
theorem enclosed_eq_run (content : Reader α) (start : Nat) (body : Bytes) :
    Reader.enclosed start body content =
      ((do let value ← content; let _ ← Reader.expectEnd; return value : Reader α)
        ⟨start, body⟩).map Prod.fst := by
  show (content ⟨start, body⟩ >>= fun p => Reader.expectEnd p.2 >>= fun _ => _) =
    (content ⟨start, body⟩ >>= fun p => Reader.expectEnd p.2 >>= fun q => _).map _
  cases content ⟨start, body⟩ with
  | error fault => rfl
  | ok p =>
    show (Reader.expectEnd p.2 >>= fun _ => _) = (Reader.expectEnd p.2 >>= fun q => _).map _
    cases Reader.expectEnd p.2 with
    | error fault => rfl
    | ok q => rfl

theorem AnchoredBody.enclosed {content : Reader α} (h : Anchored content) :
    AnchoredBody fun start body => Reader.enclosed start body content := by
  simp only [enclosed_eq_run]
  exact AnchoredBody.of_run
    (h.bind fun value => Anchored.expectEnd.bind fun _ => Anchored.pure value)

/-- A reader may take a body and leave it to what knows where the body starts. -/
theorem Anchored.body {verdict : Nat → Bytes → Except Fault α} (h : AnchoredBody verdict)
    (n : Nat) : Anchored (do
      let start := (← get).offset
      let body ← Reader.take n
      Reader.lift (verdict start body)) := by
  have hrun : ∀ c, (do
      let start := (← get).offset
      let body ← Reader.take n
      Reader.lift (verdict start body) : Reader α) c =
        (Reader.take n c >>= fun p => Reader.lift (verdict c.offset p.1) p.2) := fun _ => rfl
  constructor
  · intro c value rest hok
    rw [hrun] at hok
    obtain ⟨⟨body, middle⟩, htake, hlift⟩ := bind_eq_ok_iff.1 hok
    obtain ⟨-, rfl⟩ := lift_eq_ok_iff.1 hlift
    exact (Anchored.take n).advances htake
  · intro c fault herror
    rw [hrun] at herror
    rcases bind_eq_error_iff.1 herror with htake | ⟨⟨body, middle⟩, htake, hlift⟩
    · exact (Anchored.take n).within htake
    · -- the body is the part of the bytes at hand that has been taken
      obtain ⟨hbytes, -, -⟩ := take_eq_ok htake
      have hle : body.length ≤ c.bytes.length := by
        rw [hbytes, List.length_append]
        exact Nat.le_add_right _ _
      exact (h.within (lift_eq_error_iff.1 hlift)).mono (Nat.le_refl _)
        (Nat.add_le_add_left hle c.offset)
  · intro k c
    rw [hrun, hrun, (Anchored.take n).shift k c]
    cases Reader.take n c with
    | error fault => rfl
    | ok p =>
      show Reader.lift (verdict (k + c.offset) p.1) (p.2.shift k) =
        shiftOutcome k (Reader.lift (verdict c.offset p.1) p.2)
      rw [h.shift]
      cases verdict c.offset p.1 with
      | error fault => rfl
      | ok value => rfl

end Anchored

/-! ## The readers of a class file -/

section Parts

variable {α : Type}

theorem Anchored.readHeader : Anchored readHeader := by
  refine Anchored.u4.bind fun found => ?_
  split
  · exact Anchored.fail rfl
  · exact Anchored.u2.bind fun _ => Anchored.u2.bind fun _ => Anchored.pure _

theorem Anchored.readContent (tag : UInt8) : Anchored (Constant.readContent tag) := by
  have hword : ∀ f : UInt16 → Constant, Anchored (do return f (← Reader.u2)) :=
    fun f => Anchored.u2.bind fun _ => Anchored.pure _
  have hwords : ∀ f : UInt16 → UInt16 → Constant,
      Anchored (do return f (← Reader.u2) (← Reader.u2)) :=
    fun f => Anchored.u2.bind fun _ => Anchored.u2.bind fun _ => Anchored.pure _
  unfold Constant.readContent
  split
  · refine Anchored.u2.bind fun length => (Anchored.take length.toNat).bind fun body => ?_
    split
    · exact Anchored.pure _
    · exact Anchored.fail rfl
  · exact Anchored.u4.bind fun _ => Anchored.pure _
  · exact Anchored.u4.bind fun _ => Anchored.pure _
  · exact Anchored.u8.bind fun _ => Anchored.pure _
  · exact Anchored.u8.bind fun _ => Anchored.pure _
  · exact hword Constant.classRef
  · exact hword Constant.string
  · exact hwords Constant.fieldRef
  · exact hwords Constant.methodRef
  · exact hwords Constant.interfaceMethodRef
  · exact hwords Constant.nameAndType
  · exact Anchored.u1.bind fun _ => Anchored.u2.bind fun _ => Anchored.pure _
  · exact hword Constant.methodType
  · exact hwords Constant.dynamic
  · exact hwords Constant.invokeDynamic
  · exact hword Constant.module
  · exact hword Constant.package
  · exact Anchored.fail rfl

theorem Anchored.readConstant : Anchored Constant.read :=
  Anchored.u1.bind Anchored.readContent

theorem Anchored.readSlots (slots : Nat) : Anchored (ConstantPool.readSlots slots) := by
  fun_induction ConstantPool.readSlots slots with
  | case1 => exact Anchored.pure []
  | case2 =>
    refine Anchored.readConstant.bind fun c => ?_
    split
    · exact Anchored.fail rfl
    · exact Anchored.pure _
  | case3 slots ihWide ihNarrow =>
    refine Anchored.readConstant.bind fun c => ?_
    split
    · exact ihWide.bind fun _ => Anchored.pure _
    · exact ihNarrow.bind fun _ => Anchored.pure _

theorem Anchored.readPool : Anchored ConstantPool.read :=
  Anchored.u2.bind fun _ => (Anchored.readSlots _).bind fun _ => Anchored.pure _

theorem Anchored.readText (pool : ConstantPool) : Anchored (readText pool) :=
  Anchored.index (unplaced_getUtf8 pool)

theorem Anchored.readClassName (pool : ConstantPool) : Anchored (readClassName pool) :=
  Anchored.index (unplaced_getClassName pool)

theorem Anchored.readClassInfo (pool : ConstantPool) : Anchored (readClassInfo pool) :=
  Anchored.u2.bind fun _ => (Anchored.readClassName pool).bind fun _ =>
    Anchored.index_bind (unplaced_getClassName? pool) fun _ => Anchored.pure _

/-! ### Attributes -/

/-- What the body of an attribute says, given where it starts; nothing if its name is not
recognised. -/
def attributeBody (pool : ConstantPool) (recognise : String → Option (Reader α)) (name : PoolIndex)
    (start : Nat) (body : Bytes) : Except Fault (Option α) := do
  let name ← pool.getUtf8 name
  match recognise name with
  | some content => some <$> Reader.enclosed start body content
  | none => .ok none

theorem attributeBody_of_unnamed {pool : ConstantPool} {recognise : String → Option (Reader α)}
    {name : PoolIndex} {fault : Fault} (h : pool.getUtf8 name = .error fault) :
    attributeBody pool recognise name = fun _ _ => .error fault := by
  funext start body
  simp only [attributeBody, h, bind, Except.bind]

theorem attributeBody_of_skipped {pool : ConstantPool} {recognise : String → Option (Reader α)}
    {name : PoolIndex} {text : String} (htext : pool.getUtf8 name = .ok text)
    (hskipped : recognise text = none) :
    attributeBody pool recognise name = fun _ _ => .ok none := by
  funext start body
  simp only [attributeBody, htext, hskipped, bind, Except.bind]

theorem attributeBody_of_recognised {pool : ConstantPool} {recognise : String → Option (Reader α)}
    {name : PoolIndex} {text : String} {content : Reader α}
    (htext : pool.getUtf8 name = .ok text) (hcontent : recognise text = some content) :
    attributeBody pool recognise name =
      fun start body => (Reader.enclosed start body content).map some := by
  funext start body
  simp only [attributeBody, htext, hcontent, bind, Except.bind]
  rfl

theorem attributeEntry_eq (pool : ConstantPool) (recognise : String → Option (Reader α)) :
    attributeEntry pool recognise = (do
      let name ← Reader.u2
      let length ← Reader.u4
      let start := (← get).offset
      let body ← Reader.take length.toNat
      Reader.lift (attributeBody pool recognise name start body)) := by
  unfold attributeEntry
  refine bind_congr fun name => bind_congr fun length => bind_congr fun cursor =>
    bind_congr fun body => ?_
  funext rest
  cases htext : pool.getUtf8 name with
  | error fault =>
    rw [attributeBody_of_unnamed htext]
    rfl
  | ok text =>
    cases hcontent : recognise text with
    | none =>
      rw [attributeBody_of_skipped htext hcontent]
      simp only [bind, StateT.bind, Except.bind, Reader.lift, hcontent]
      rfl
    | some content =>
      rw [attributeBody_of_recognised htext hcontent]
      simp only [bind, StateT.bind, Except.bind, Reader.lift, hcontent]
      cases Reader.enclosed cursor.offset body content with
      | error fault => rfl
      | ok value => rfl

/-- The body of a recognised attribute is judged by its reader, and a failed lookup of the name
points nowhere. -/
theorem AnchoredBody.attributeBody {pool : ConstantPool} {recognise : String → Option (Reader α)}
    (h : ∀ name content, recognise name = some content → Anchored content) (name : PoolIndex) :
    AnchoredBody (attributeBody pool recognise name) := by
  cases htext : pool.getUtf8 name with
  | error fault =>
    rw [attributeBody_of_unnamed htext]
    exact AnchoredBody.error (unplaced_getUtf8 pool name fault htext)
  | ok text =>
    cases hcontent : recognise text with
    | none =>
      rw [attributeBody_of_skipped htext hcontent]
      exact AnchoredBody.ok none
    | some content =>
      rw [attributeBody_of_recognised htext hcontent]
      exact (AnchoredBody.enclosed (h text content hcontent)).map some

theorem Anchored.attributeEntry {pool : ConstantPool} {recognise : String → Option (Reader α)}
    (h : ∀ name content, recognise name = some content → Anchored content) :
    Anchored (attributeEntry pool recognise) := by
  rw [attributeEntry_eq]
  exact Anchored.u2.bind fun name => Anchored.u4.bind fun length =>
    Anchored.body (AnchoredBody.attributeBody h name) length.toNat

theorem Anchored.attributeTable {pool : ConstantPool} {recognise : String → Option (Reader α)}
    (h : ∀ name content, recognise name = some content → Anchored content) :
    Anchored (attributeTable pool recognise) :=
  (Anchored.attributeEntry h).table.bind fun _ => Anchored.pure _

theorem anchored_codeAttribute {name : String} {content : Reader (List LineNumber)}
    (h : codeAttribute name = some content) : Anchored content := by
  unfold codeAttribute at h
  split at h
  · cases h
    exact (Anchored.u2.bind fun _ => Anchored.u2.bind fun _ => Anchored.pure _).table
  · cases h

theorem Anchored.readCode (pool : ConstantPool) : Anchored (readCode pool) := by
  refine Anchored.u2.bind fun maxStack => Anchored.u2.bind fun maxLocals => ?_
  refine Anchored.u4.bind fun length => (Anchored.take length.toNat).bind fun code => ?_
  refine Anchored.u2.bind fun handlers => (Anchored.take (handlers.toNat * 8)).bind fun _ => ?_
  refine (Anchored.attributeTable fun _ _ => anchored_codeAttribute).bind fun tables => ?_
  exact (Anchored.lift (unplaced_scanFrom pool _ 0 code)).bind fun _ => Anchored.pure _

/-! ### Annotations -/

theorem Anchored.readAnnotationWith {pool : ConstantPool} {holder : String}
    {value : Reader (ElementValue String)} (h : Anchored value) :
    Anchored (readAnnotationWith pool holder value) := by
  refine Anchored.index_bind (unplaced_getUtf8 pool) fun descriptor => ?_
  refine (Anchored.lift (unplaced_attributeClass holder descriptor)).bind fun type => ?_
  have helement : Anchored (do
      let name ← Reader.lift (pool.getUtf8 (← Reader.u2))
      return (name, ← value)) :=
    Anchored.index_bind (unplaced_getUtf8 pool) fun _ => h.bind fun _ => Anchored.pure _
  exact helement.table.bind fun _ => Anchored.pure _

theorem anchored_readConst? {pool : ConstantPool} {tag : Char} {content : Reader ConstValue}
    (h : readConst? pool tag = some content) : Anchored content := by
  unfold readConst? at h
  split at h <;> cases h
  · exact Anchored.index_bind (unplaced_getInteger pool) fun _ => Anchored.pure _
  · exact Anchored.index_bind (unplaced_getInteger pool) fun _ => Anchored.pure _
  · exact Anchored.index_bind (unplaced_getInteger pool) fun _ => Anchored.pure _
  · exact Anchored.index_bind (unplaced_getInteger pool) fun _ => Anchored.pure _
  · exact Anchored.index_bind (unplaced_getInteger pool) fun _ => Anchored.pure _
  · exact Anchored.index_bind (unplaced_getDouble pool) fun _ => Anchored.pure _
  · exact Anchored.index_bind (unplaced_getFloat pool) fun _ => Anchored.pure _
  · exact Anchored.index_bind (unplaced_getLong pool) fun _ => Anchored.pure _
  · exact Anchored.index_bind (unplaced_getString pool) fun _ => Anchored.pure _

/-- A value is anchored at any depth: the values nested in it are read by readers of less depth. -/
theorem Anchored.readElementValue (pool : ConstantPool) (holder : String) (depth : Nat) :
    Anchored (readElementValue pool holder depth) := by
  induction depth with
  | zero => exact Anchored.lift (unplaced_malformed holder)
  | succ depth ih =>
    unfold ClassFile.readElementValue
    refine Anchored.u1.bind fun tag => ?_
    dsimp only
    split
    · rename_i content hcontent
      exact (anchored_readConst? hcontent).bind fun _ => Anchored.pure _
    · split
      · refine Anchored.u2.bind fun type => Anchored.u2.bind fun name => ?_
        refine (Anchored.lift (unplaced_getUtf8 pool type)).bind fun type => ?_
        refine (Anchored.lift (unplaced_attributeClass holder type)).bind fun type => ?_
        exact (Anchored.lift (unplaced_getUtf8 pool name)).bind fun _ => Anchored.pure _
      · refine Anchored.index_bind (unplaced_getUtf8 pool) fun descriptor => ?_
        exact (Anchored.lift (unplaced_typeNameOfLiteral descriptor)).bind fun _ => Anchored.pure _
      · exact (Anchored.readAnnotationWith ih).bind fun _ => Anchored.pure _
      · exact ih.table.bind fun _ => Anchored.pure _
      · exact Anchored.lift (unplaced_malformed holder)

theorem Anchored.readAnnotations (pool : ConstantPool) (holder : String) :
    Anchored (readAnnotations pool holder) :=
  Anchored.table (Anchored.of_length fun n =>
    Anchored.readAnnotationWith (Anchored.readElementValue pool holder (n + 1)))

/-! ### Attributes of members and classes -/

theorem anchored_memberAttribute {pool : ConstantPool} {name : String}
    {content : Reader MemberAttribute} (h : memberAttribute pool name = some content) :
    Anchored content := by
  unfold memberAttribute at h
  split at h <;> cases h
  · exact (Anchored.readText pool).map _
  · exact (Anchored.readAnnotations pool _).map _
  · exact (Anchored.readAnnotations pool _).map _
  · exact (Anchored.readClassName pool).table.map _
  · exact (Anchored.readCode pool).map _

theorem Anchored.readInnerClass (pool : ConstantPool) : Anchored (readInnerClass pool) := by
  refine Anchored.u2.bind fun inner => Anchored.u2.bind fun outer => ?_
  refine Anchored.u2.bind fun innerName => Anchored.u2.bind fun flags => ?_
  refine (Anchored.lift (unplaced_getClassName pool inner)).bind fun inner => ?_
  refine (Anchored.lift (unplaced_getClassName? pool outer)).bind fun outer => ?_
  refine Anchored.bind (Anchored.lift ?_) fun innerName => Anchored.pure _
  split
  · exact Unplaced.ok _
  · exact (unplaced_getUtf8 pool innerName).map some

theorem Anchored.readEnclosingMethod (pool : ConstantPool) :
    Anchored (readEnclosingMethod pool) := by
  refine (Anchored.readClassName pool).bind fun owner => Anchored.u2.bind fun method => ?_
  refine Anchored.bind (Anchored.lift ?_) fun method => Anchored.pure _
  split
  · exact Unplaced.ok _
  · exact (unplaced_getNameAndType pool method).map some

theorem anchored_classAttribute {pool : ConstantPool} {name : String}
    {content : Reader ClassAttribute} (h : classAttribute pool name = some content) :
    Anchored content := by
  unfold classAttribute at h
  split at h <;> cases h
  · exact (Anchored.readText pool).map _
  · exact (Anchored.readText pool).map _
  · exact (Anchored.readAnnotations pool _).map _
  · exact (Anchored.readAnnotations pool _).map _
  · exact (Anchored.readInnerClass pool).table.map _
  · exact (Anchored.readEnclosingMethod pool).map _

theorem Anchored.readMember (pool : ConstantPool) {parseType : String → Except Fault α}
    (h : ∀ descriptor, Unplaced (parseType descriptor)) : Anchored (readMember pool parseType) := by
  refine Anchored.u2.bind fun flags => (Anchored.readText pool).bind fun name => ?_
  refine (Anchored.readText pool).bind fun descriptor => ?_
  refine (Anchored.lift (h descriptor)).bind fun type => ?_
  exact (Anchored.attributeTable fun _ _ => anchored_memberAttribute).bind fun _ => Anchored.pure _

theorem Anchored.readClassAttributes (pool : ConstantPool) :
    Anchored (readClassAttributes pool) :=
  (Anchored.attributeTable fun _ _ => anchored_classAttribute).bind fun _ =>
    Anchored.expectEnd.bind fun _ => Anchored.pure _

end Parts

end ClassFile

end TypeAtlas
