import TypeAtlas.Proofs.ClassFile.Anchored
import TypeAtlas.Proofs.ClassFile.SectionStart
import TypeAtlas.Proofs.ClassFile.TypedReference

/-!
# Where malformed input is blamed

A rejection names the section that was being read and the place where it starts, and this is the
only wrapping that its fault gets: on the way from a class file to a class record every descriptor
is read again, outside of all sections, but these have been read before (`reread_eq_ok`). The
readers of all sections are anchored, so the offset of a rejection lies between the start of its
section and the end of the file. What goes wrong in the body of an attribute (`AttributeBody`), also
in one inside a code body, is what goes wrong when the body is read on its own, moved to the place
where the body stands in the file. `malformed_located` puts these together.
-/

set_option autoImplicit false

namespace TypeAtlas

/-! ## Reports -/

/-- What a caller is told about malformed input: a fault, or a report wrapped with a section and the
place where it starts. -/
inductive Report where
  | bare (fault : Fault)
  | inSection (part : Section) (start : Nat) (source : Report)
  deriving DecidableEq, Repr

/-- The offset of a report: its fault's own, or else the start of the innermost section. -/
def Report.offset? : Report → Option Nat
  | .bare fault => fault.offset?
  | .inSection _ start source => source.offset?.or (some start)

/-- The report of a rejection: its fault in one wrapping. -/
def Rejection.report (r : Rejection) : Report := .inSection r.part r.start (.bare r.fault)

theorem Rejection.offset?_report (r : Rejection) : r.report.offset? = some r.offset := by
  unfold Rejection.report Report.offset? Report.offset? Rejection.offset
  cases r.fault.offset? with
  | none => rfl
  | some place => rfl

/-! ## From class files to class records -/

/-- The record of a field, its type read off the descriptor once more. -/
def FieldRecord.reread (m : Member FieldType) : Except Fault FieldRecord := do
  let type ← FieldType.parse m.descriptor
  return { FieldRecord.ofMember m with type }

/-- The record of a code unit, its type read off the descriptor once more. -/
def CodeUnit.reread (m : Member MethodType) : Except Fault CodeUnit := do
  let type ← MethodType.parse m.descriptor
  return { CodeUnit.ofMember m with type }

/-- The record of a class file, the types of its members read off the descriptors once more. -/
def ClassRecord.reread (file : ClassFile) : Except Fault ClassRecord := do
  let fields ← file.fields.mapM FieldRecord.reread
  let codeUnits ← file.methods.mapM CodeUnit.reread
  return { ClassRecord.ofClassFile file with fields, codeUnits }

/-- The record of the class in a class file, or a report on why there is none. Faults of the class
file are reported with their section, and those met after it has been read without one. -/
def ClassRecord.parseReported (bytes : Bytes) : Except Report ClassRecord := do
  let file ← (ClassFile.parse bytes).mapError Rejection.report
  (ClassRecord.reread file).mapError Report.bare

theorem mapM_eq_ok {ε α β : Type} {f : α → Except ε β} {g : α → β} {l : List α}
    (h : ∀ a ∈ l, f a = .ok (g a)) : l.mapM f = .ok (l.map g) := by
  induction l with
  | nil => rfl
  | cons a l ih =>
    obtain ⟨ha, hl⟩ := List.forall_mem_cons.1 h
    rw [List.mapM_cons, ha, ih hl]
    rfl

/-- A class file that was read does not fail on the way to its record: each descriptor is what the
type of its member was read off in the first place. -/
theorem reread_eq_ok {bytes : Bytes} {file : ClassFile} (h : ClassFile.parse bytes = .ok file) :
    ClassRecord.reread file = .ok (ClassRecord.ofClassFile file) := by
  obtain ⟨rest, hread⟩ := ClassFile.parse_eq_ok_iff.1 h
  obtain ⟨hfields, hmethods⟩ := ClassFile.yields_read_spelled _ file rest hread
  have hfield : ∀ m ∈ file.fields, FieldRecord.reread m = .ok (FieldRecord.ofMember m) := by
    intro m hm
    have hspelled : FieldType.parse m.descriptor = .ok m.type := hfields m hm
    unfold FieldRecord.reread
    rw [hspelled]
    rfl
  have hmethod : ∀ m ∈ file.methods, CodeUnit.reread m = .ok (CodeUnit.ofMember m) := by
    intro m hm
    have hspelled : MethodType.parse m.descriptor = .ok m.type := hmethods m hm
    unfold CodeUnit.reread
    rw [hspelled]
    rfl
  unfold ClassRecord.reread
  rw [mapM_eq_ok hfield, mapM_eq_ok hmethod]
  rfl

/-- So no report comes from that way: a class record fails with the rejection of the class file. -/
theorem parseReported_eq (bytes : Bytes) :
    ClassRecord.parseReported bytes = (ClassRecord.parse bytes).mapError Rejection.report := by
  unfold ClassRecord.parseReported ClassRecord.parse
  cases hfile : ClassFile.parse bytes with
  | error r => rfl
  | ok file =>
    show (ClassRecord.reread file).mapError Report.bare = _
    rw [reread_eq_ok hfile]
    rfl

namespace ClassFile

/-! ## Positions -/

/-- The readers of everything before a section, and of the section, are anchored. -/
theorem Anchored.keepingPool {α : Type} {before : Reader ConstantPool}
    {content : ConstantPool → Reader α} (hbefore : Anchored before)
    (hcontent : ∀ pool, Anchored (content pool)) : Anchored (keepingPool before content) :=
  hbefore.bind fun pool => (hcontent pool).bind fun _ => Anchored.pure pool

theorem Anchored.readField (pool : ConstantPool) :
    Anchored (ClassFile.readMember pool FieldType.parse) :=
  Anchored.readMember pool unplaced_parseType

theorem Anchored.readMethod (pool : ConstantPool) :
    Anchored (ClassFile.readMember pool MethodType.parse) :=
  Anchored.readMember pool unplaced_parseMethodType

theorem Anchored.throughPool : Anchored throughPool :=
  Anchored.readHeader.bind fun _ => Anchored.readPool

theorem Anchored.throughInfo : Anchored throughInfo :=
  Anchored.throughPool.keepingPool Anchored.readClassInfo

theorem Anchored.throughInterfaces : Anchored throughInterfaces :=
  Anchored.throughInfo.keepingPool fun pool => (Anchored.readClassName pool).table

theorem Anchored.throughFields : Anchored throughFields :=
  Anchored.throughInterfaces.keepingPool fun pool => (Anchored.readField pool).table

theorem Anchored.throughMethods : Anchored throughMethods :=
  Anchored.throughFields.keepingPool fun pool => (Anchored.readMethod pool).table

/-- A part of a member table is read by an anchored reader, from a position behind the start of the
table on. -/
theorem MemberPart.anchored {τ α : Type} {item : Reader (Member τ)} {table c : Cursor}
    {index : UInt16} {content : Reader α} (hitem : Anchored item)
    (h : MemberPart item table index c content) : Anchored content ∧ Advances table c := by
  cases h with
  | count _ => exact ⟨Anchored.u2, Advances.refl table⟩
  | member hcount _ hbefore =>
    exact ⟨hitem, (Anchored.u2.advances hcount).trans ((hitem.times _).advances hbefore)⟩

/-- A section is read by an anchored reader, from a position in the file on. -/
theorem ComesTo.anchored {bytes : Bytes} {part : Section} {c : Cursor} {α : Type}
    {content : Reader α} (h : ComesTo bytes part c content) :
    Anchored content ∧ Advances ⟨0, bytes⟩ c := by
  cases h with
  | header => exact ⟨Anchored.readHeader, Advances.refl _⟩
  | constantPool h => exact ⟨Anchored.readPool, Anchored.readHeader.advances h⟩
  | classInfo h => exact ⟨Anchored.readClassInfo _, Anchored.throughPool.advances h⟩
  | interfaces h => exact ⟨(Anchored.readClassName _).table, Anchored.throughInfo.advances h⟩
  | field h hpart =>
    obtain ⟨hcontent, hmoved⟩ := hpart.anchored (Anchored.readField _)
    exact ⟨hcontent, (Anchored.throughInterfaces.advances h).trans hmoved⟩
  | method h hpart =>
    obtain ⟨hcontent, hmoved⟩ := hpart.anchored (Anchored.readMethod _)
    exact ⟨hcontent, (Anchored.throughFields.advances h).trans hmoved⟩
  | classAttributes h =>
    exact ⟨Anchored.readClassAttributes _, Anchored.throughMethods.advances h⟩

/-- The reading of a file comes to a section at this place. -/
def StartsAt (bytes : Bytes) (part : Section) (start : Nat) : Prop :=
  ∃ (α : Type) (content : Reader α), ComesTo bytes part ⟨start, bytes.drop start⟩ content

theorem StartsAt.unique {bytes : Bytes} {part : Section} {start start' : Nat}
    (h : StartsAt bytes part start) (h' : StartsAt bytes part start') : start = start' := by
  obtain ⟨α, content, hcomes⟩ := h
  obtain ⟨α', content', hcomes'⟩ := h'
  exact congrArg Cursor.offset (hcomes.unique hcomes')

theorem parse_eq_error_iff {bytes : Bytes} {r : Rejection} :
    parse bytes = .error r ↔ read ⟨0, bytes⟩ = .error r := by
  show (read ⟨0, bytes⟩).map Prod.fst = _ ↔ _
  cases read ⟨0, bytes⟩ with
  | error r' =>
    constructor
    · intro h
      cases h
      rfl
    · intro h
      cases h
      rfl
  | ok result =>
    constructor
    · intro h
      cases h
    · intro h
      cases h

/-- A rejection names a section that the reading came to, and its offset lies between the start of
that section and the end of the file. -/
theorem located_of_read_eq_error {bytes : Bytes} {r : Rejection}
    (h : read ⟨0, bytes⟩ = .error r) :
    StartsAt bytes r.part r.start ∧ r.start ≤ r.offset ∧ r.offset ≤ bytes.length := by
  obtain ⟨α, content, c, hcomes, hfault, hstart⟩ := comesTo_of_read_eq_error h
  obtain ⟨hcontent, hmoved⟩ := hcomes.anchored
  obtain ⟨hcursor, hle⟩ := hmoved.eq_drop
  have hlimit : c.limit = bytes.length := by
    rw [hmoved.limit_eq]
    exact Nat.zero_add bytes.length
  refine ⟨⟨α, content, ?_⟩, ?_⟩
  · rw [← hstart, ← hcursor]
    exact hcomes
  · unfold Rejection.offset
    cases hplace : r.fault.offset? with
    | none =>
      rw [hstart] at hle
      exact ⟨Nat.le_refl _, hle⟩
    | some place =>
      have hwithin := hcontent.within hfault place hplace
      rw [hlimit, hstart] at hwithin
      exact hwithin

/-! ## Bodies of attributes -/

/-- A body stands at a place among the bytes at hand. -/
def Stands (c : Cursor) (place : Nat) (body : Bytes) : Prop :=
  ∃ front rest, c.bytes = front ++ (body ++ rest) ∧ place = c.offset + front.length

theorem Stands.of_advances {c c' : Cursor} {place : Nat} {body : Bytes} (hmoved : Advances c c')
    (h : Stands c' place body) : Stands c place body := by
  obtain ⟨used, hbytes, hoffset⟩ := hmoved
  obtain ⟨front, rest, hbytes', hplace⟩ := h
  refine ⟨used ++ front, rest, ?_, ?_⟩
  · rw [hbytes, hbytes', List.append_assoc]
  · rw [hplace, hoffset, List.length_append, Nat.add_assoc]

/-- A body inside a body stands where the outer one does. -/
theorem Stands.trans {c : Cursor} {place place' : Nat} {body body' : Bytes}
    (h : Stands c place body) (h' : Stands ⟨place, body⟩ place' body') : Stands c place' body' := by
  obtain ⟨front, rest, hbytes, hplace⟩ := h
  obtain ⟨front', rest', hbody, hplace'⟩ := h'
  change body = front' ++ (body' ++ rest') at hbody
  change place' = place + front'.length at hplace'
  refine ⟨front ++ front', rest' ++ rest, ?_, ?_⟩
  · rw [hbytes, hbody, List.append_assoc, List.append_assoc, List.append_assoc]
  · rw [hplace', hplace, List.length_append, Nat.add_assoc]

/-- Reads an attribute up to the end of its body: the index of its name, where the body starts, and
the body. -/
def attributeHead : Reader (PoolIndex × Nat × Bytes) := do
  let name ← Reader.u2
  let length ← Reader.u4
  let start := (← get).offset
  let body ← Reader.take length.toNat
  return (name, start, body)

variable {α : Type} {pool : ConstantPool} {recognise : String → Option (Reader α)}

/-- In the reading of a table of attributes, the body of a recognised one is come to: the attributes
before it were read. -/
inductive AttributeAt (pool : ConstantPool) (recognise : String → Option (Reader α))
    (table : Cursor) : Nat → Bytes → Reader α → Prop
  | mk {count : UInt16} {first c after : Cursor} {index : Nat} {before : List (Option α)}
      {name : PoolIndex} {place : Nat} {body : Bytes} {text : String} {content : Reader α}
      (hcount : Reader.u2 table = .ok (count, first)) (hindex : index < count.toNat)
      (hbefore : Reader.times index (attributeEntry pool recognise) first = .ok (before, c))
      (hhead : attributeHead c = .ok ((name, place, body), after))
      (htext : pool.getUtf8 name = .ok text) (hcontent : recognise text = some content) :
      AttributeAt pool recognise table place body content

theorem stands_of_attributeHead {c after : Cursor} {name : PoolIndex} {place : Nat} {body : Bytes}
    (h : attributeHead c = .ok ((name, place, body), after)) : Stands c place body := by
  obtain ⟨⟨name', c₁⟩, hname, h⟩ := bind_eq_ok_iff.1 h
  obtain ⟨⟨length, c₂⟩, hlength, h⟩ := bind_eq_ok_iff.1 h
  obtain ⟨⟨body', c₃⟩, htake, h⟩ := bind_eq_ok_iff.1 h
  cases h
  refine Stands.of_advances
    ((Anchored.u2.advances hname).trans (Anchored.u4.advances hlength)) ?_
  -- the body is what is taken off the bytes behind its length
  obtain ⟨hbytes, -, -⟩ := take_eq_ok htake
  exact ⟨[], after.bytes, hbytes, rfl⟩

theorem AttributeAt.stands {table : Cursor} {place : Nat} {body : Bytes} {content : Reader α}
    (hentry : Anchored (attributeEntry pool recognise))
    (h : AttributeAt pool recognise table place body content) : Stands table place body := by
  obtain ⟨hcount, -, hbefore, hhead, -, -⟩ := h
  exact (stands_of_attributeHead hhead).of_advances
    ((Anchored.u2.advances hcount).trans ((hentry.times _).advances hbefore))

/-- An attribute whose body is rejected is rejected. -/
theorem attributeEntry_eq_error {c after : Cursor} {name : PoolIndex} {place : Nat} {body : Bytes}
    {text : String} {content : Reader α} {fault : Fault}
    (hhead : attributeHead c = .ok ((name, place, body), after))
    (htext : pool.getUtf8 name = .ok text) (hcontent : recognise text = some content)
    (hfault : Reader.enclosed place body content = .error fault) :
    attributeEntry pool recognise c = .error fault := by
  obtain ⟨⟨name', c₁⟩, hname, h⟩ := bind_eq_ok_iff.1 hhead
  obtain ⟨⟨length, c₂⟩, hlength, h⟩ := bind_eq_ok_iff.1 h
  obtain ⟨⟨body', c₃⟩, htake, h⟩ := bind_eq_ok_iff.1 h
  cases h
  rw [attributeEntry_eq]
  refine bind_eq_error_iff.2 (Or.inr ⟨_, hname, bind_eq_error_iff.2 (Or.inr ⟨_, hlength, ?_⟩)⟩)
  refine bind_eq_error_iff.2 (Or.inr ⟨_, htake, ?_⟩)
  rw [attributeBody_of_recognised htext hcontent]
  refine lift_eq_error_iff.2 ?_
  show (Reader.enclosed c₂.offset body content).map some = .error fault
  rw [hfault]
  rfl

/-- A table fails on the first attribute whose body is rejected. -/
theorem AttributeAt.table_eq_error {table : Cursor} {place : Nat} {body : Bytes}
    {content : Reader α} {fault : Fault}
    (h : AttributeAt pool recognise table place body content)
    (hfault : Reader.enclosed place body content = .error fault) :
    attributeTable pool recognise table = .error fault := by
  obtain ⟨hcount, hindex, hbefore, hhead, htext, hcontent⟩ := h
  have hentry := attributeEntry_eq_error hhead htext hcontent hfault
  exact bind_eq_error_iff.2 (Or.inl (ClassFile.table_eq_error hcount hindex hbefore hentry))

/-- Reads a field or a method up to its attributes. -/
def memberHead {τ : Type} (pool : ConstantPool) (parseType : String → Except Fault τ) :
    Reader Unit := do
  let _ ← Reader.u2
  let _ ← readText pool
  let descriptor ← readText pool
  let _ ← Reader.lift (parseType descriptor)
  return ()

/-- Reads a code body up to its attributes. -/
def codeHead : Reader Unit := do
  let _ ← Reader.u2
  let _ ← Reader.u2
  let length ← Reader.u4
  let _ ← Reader.take length.toNat
  let handlers ← Reader.u2
  let _ ← Reader.take (handlers.toNat * 8)
  return ()

/-- In the reading of a section of a file, the body of an attribute is come to, which stands at a
place and is to be read by a reader of its own: an attribute of the class, of a field or a method,
or of a code body, which is the body of an attribute itself. -/
inductive AttributeBody (bytes : Bytes) : Section → Nat → Bytes → {α : Type} → Reader α → Prop
  | ofClass {pool : ConstantPool} {table : Cursor} {place : Nat} {body : Bytes}
      {content : Reader ClassAttribute} (htable : throughMethods ⟨0, bytes⟩ = .ok (pool, table))
      (hbody : AttributeAt pool (classAttribute pool) table place body content) :
      AttributeBody bytes .classAttributes place body content
  | ofMember {τ : Type} {parseType : String → Except Fault τ} {pool : ConstantPool}
      {part : Section} {c table : Cursor} {place : Nat} {body : Bytes}
      {content : Reader MemberAttribute}
      (hmember : ComesTo bytes part c (readMember pool parseType))
      (htable : memberHead pool parseType c = .ok ((), table))
      (hbody : AttributeAt pool (memberAttribute pool) table place body content) :
      AttributeBody bytes part place body content
  | ofCode {pool : ConstantPool} {part : Section} {table : Cursor} {place place' : Nat}
      {body body' : Bytes} {content : Reader (List LineNumber)}
      (hcode : AttributeBody bytes part place body (MemberAttribute.code <$> readCode pool))
      (htable : codeHead ⟨place, body⟩ = .ok ((), table))
      (hbody : AttributeAt pool codeAttribute table place' body' content) :
      AttributeBody bytes part place' body' content

section AttributeBodies

variable {bytes body : Bytes} {part : Section} {place : Nat} {content : Reader α}

theorem Delimited.advances {β : Type} {m : Reader β} (h : Delimited id m) {c c' : Cursor}
    {value : β} (hrun : m c = .ok (value, c')) : Advances c c' := by
  obtain ⟨used, tail, hbytes, rfl, -⟩ := h c.offset c.bytes value c' hrun
  exact ⟨used, hbytes, rfl⟩

theorem Delimited.memberHead {τ : Type} (pool : ConstantPool)
    (parseType : String → Except Fault τ) : Delimited id (memberHead pool parseType) :=
  Delimited.u2.bind fun _ => (Delimited.index pool.getUtf8).bind fun _ =>
    (Delimited.index pool.getUtf8).bind fun _ => (Delimited.lift _).bind fun _ => Delimited.pure ()

theorem Delimited.codeHead : Delimited id codeHead :=
  Delimited.u2.bind fun _ => Delimited.u2.bind fun _ => Delimited.u4.bind fun _ =>
    (Delimited.take _).bind fun _ => Delimited.u2.bind fun _ => (Delimited.take _).bind fun _ =>
    Delimited.pure ()

/-- A member fails with its table of attributes. -/
theorem readMember_eq_error {τ : Type} {parseType : String → Except Fault τ} {c table : Cursor}
    {fault : Fault} (htable : memberHead pool parseType c = .ok ((), table))
    (hfault : attributeTable pool (memberAttribute pool) table = .error fault) :
    readMember pool parseType c = .error fault := by
  obtain ⟨_, hflags, h⟩ := bind_eq_ok_iff.1 htable
  obtain ⟨_, hname, h⟩ := bind_eq_ok_iff.1 h
  obtain ⟨_, hdescriptor, h⟩ := bind_eq_ok_iff.1 h
  obtain ⟨_, htype, h⟩ := bind_eq_ok_iff.1 h
  cases h
  refine bind_eq_error_iff.2 (Or.inr ⟨_, hflags, bind_eq_error_iff.2 (Or.inr ⟨_, hname, ?_⟩)⟩)
  refine bind_eq_error_iff.2 (Or.inr ⟨_, hdescriptor, ?_⟩)
  exact bind_eq_error_iff.2 (Or.inr ⟨_, htype, bind_eq_error_iff.2 (Or.inl hfault)⟩)

/-- A code body fails with its table of attributes. -/
theorem readCode_eq_error {c table : Cursor} {fault : Fault}
    (htable : codeHead c = .ok ((), table))
    (hfault : attributeTable pool codeAttribute table = .error fault) :
    readCode pool c = .error fault := by
  obtain ⟨_, hstack, h⟩ := bind_eq_ok_iff.1 htable
  obtain ⟨_, hlocals, h⟩ := bind_eq_ok_iff.1 h
  obtain ⟨_, hlength, h⟩ := bind_eq_ok_iff.1 h
  obtain ⟨_, hcode, h⟩ := bind_eq_ok_iff.1 h
  obtain ⟨_, hcount, h⟩ := bind_eq_ok_iff.1 h
  obtain ⟨_, hhandlers, h⟩ := bind_eq_ok_iff.1 h
  cases h
  refine bind_eq_error_iff.2 (Or.inr ⟨_, hstack, bind_eq_error_iff.2 (Or.inr ⟨_, hlocals, ?_⟩)⟩)
  refine bind_eq_error_iff.2 (Or.inr ⟨_, hlength, bind_eq_error_iff.2 (Or.inr ⟨_, hcode, ?_⟩)⟩)
  refine bind_eq_error_iff.2 (Or.inr ⟨_, hcount, ?_⟩)
  exact bind_eq_error_iff.2 (Or.inr ⟨_, hhandlers, bind_eq_error_iff.2 (Or.inl hfault)⟩)

/-- A body is rejected if its content is. -/
theorem enclosed_eq_error {fault : Fault} (h : content ⟨place, body⟩ = .error fault) :
    Reader.enclosed place body content = .error fault :=
  bind_eq_error_iff.2 (Or.inl h)

theorem AttributeBody.anchored (h : AttributeBody bytes part place body content) :
    Anchored content := by
  cases h with
  | ofClass _ hbody =>
    obtain ⟨-, -, -, -, -, hcontent⟩ := hbody
    exact anchored_classAttribute hcontent
  | ofMember _ _ hbody =>
    obtain ⟨-, -, -, -, -, hcontent⟩ := hbody
    exact anchored_memberAttribute hcontent
  | ofCode _ _ hbody =>
    obtain ⟨-, -, -, -, -, hcontent⟩ := hbody
    exact anchored_codeAttribute hcontent

/-- The body of an attribute stands in the file where its reader takes it to start. -/
theorem AttributeBody.stands (h : AttributeBody bytes part place body content) :
    Stands ⟨0, bytes⟩ place body := by
  induction h with
  | ofClass htable hbody =>
    have hstands := hbody.stands (Anchored.attributeEntry fun _ _ => anchored_classAttribute)
    exact hstands.of_advances (Anchored.throughMethods.advances htable)
  | ofMember hmember htable hbody =>
    have hstands := hbody.stands (Anchored.attributeEntry fun _ _ => anchored_memberAttribute)
    have hmoved := (Delimited.memberHead _ _).advances htable
    exact hstands.of_advances (hmember.anchored.2.trans hmoved)
  | ofCode _ htable hbody ih =>
    have hstands := hbody.stands (Anchored.attributeEntry fun _ _ => anchored_codeAttribute)
    exact ih.trans (hstands.of_advances (Delimited.codeHead.advances htable))

/-- If the body of an attribute is rejected, the file is, for the same fault. -/
theorem AttributeBody.read_eq_error {fault : Fault}
    (h : AttributeBody bytes part place body content)
    (hfault : Reader.enclosed place body content = .error fault) :
    ∃ start, read ⟨0, bytes⟩ = .error ⟨fault, part, start⟩ := by
  -- outwards, from an attribute to what it is an attribute of
  induction h with
  | ofClass htable hbody =>
    have htableFails := hbody.table_eq_error hfault
    exact ⟨_, read_eq_error_of_comesTo (.classAttributes htable)
      (bind_eq_error_iff.2 (Or.inl htableFails))⟩
  | ofMember hmember htable hbody =>
    have htableFails := hbody.table_eq_error hfault
    exact ⟨_, read_eq_error_of_comesTo hmember (readMember_eq_error htable htableFails)⟩
  | ofCode _ htable hbody ih =>
    have hcodeFails := readCode_eq_error htable (hbody.table_eq_error hfault)
    refine ih (enclosed_eq_error ?_)
    rw [map_eq_pure_bind]
    exact bind_eq_error_iff.2 (Or.inl hcodeFails)

/-- What is wrong with the body of an attribute on its own is reported at the place in the file. -/
theorem AttributeBody.read_eq_error_of_alone {fault : Fault}
    (h : AttributeBody bytes part place body content)
    (hfault : Reader.enclosed 0 body content = .error fault) :
    ∃ start, read ⟨0, bytes⟩ = .error ⟨fault.shiftedBy place, part, start⟩ := by
  refine h.read_eq_error ?_
  have hshift := (AnchoredBody.enclosed h.anchored).shift place 0 body
  rw [Nat.add_zero, hfault] at hshift
  exact hshift

end AttributeBodies

end ClassFile

open ClassFile in
/-- Malformed input is always located. The way from a class file to its record never fails, so a
report is the rejection of the class file, a fault in one wrapping. The wrapping names a section and
the one place where this section starts, and the report's offset lies between this place and the
end of the file. What is wrong with the body of an attribute on its own, at any depth, is reported
as it is, except that a place in the body is reported as the place in the file. -/
theorem malformed_located (bytes : Bytes) :
    (∀ file, ClassFile.parse bytes = .ok file →
      ClassRecord.reread file = .ok (ClassRecord.ofClassFile file)) ∧
    (∀ report, ClassRecord.parseReported bytes = .error report →
      ∃ fault part start, ClassFile.parse bytes = .error ⟨fault, part, start⟩ ∧
        ClassRecord.parse bytes = .error ⟨fault, part, start⟩ ∧
        report = .inSection part start (.bare fault) ∧
        StartsAt bytes part start ∧ (∀ other, StartsAt bytes part other → other = start) ∧
        start ≤ bytes.length ∧
        ∃ offset, report.offset? = some offset ∧ start ≤ offset ∧ offset ≤ bytes.length) ∧
    ∀ (part : Section) (place : Nat) (body : Bytes) (α : Type) (content : Reader α) (fault : Fault),
      AttributeBody bytes part place body content →
      Reader.enclosed 0 body content = .error fault →
      body <+: bytes.drop place ∧ ∃ start, ClassRecord.parseReported bytes =
        .error (.inSection part start (.bare (fault.shiftedBy place))) := by
  refine ⟨fun file => reread_eq_ok, ?_, ?_⟩
  · intro report hreport
    rw [parseReported_eq] at hreport
    unfold ClassRecord.parse at hreport ⊢
    cases hfile : ClassFile.parse bytes with
    | ok file =>
      rw [hfile] at hreport
      cases hreport
    | error r =>
      rw [hfile] at hreport
      cases hreport
      obtain ⟨hstarts, hlow, hhigh⟩ := located_of_read_eq_error (parse_eq_error_iff.1 hfile)
      refine ⟨r.fault, r.part, r.start, rfl, rfl, rfl, hstarts, ?_, Nat.le_trans hlow hhigh,
        r.offset, r.offset?_report, hlow, hhigh⟩
      exact fun other hother => hother.unique hstarts
  · intro part place body α content fault hbody hfault
    obtain ⟨start, hread⟩ := hbody.read_eq_error_of_alone hfault
    refine ⟨?_, start, ?_⟩
    · obtain ⟨front, rest, hbytes, hplace⟩ := hbody.stands
      change bytes = front ++ (body ++ rest) at hbytes
      rw [hbytes, hplace, Nat.zero_add, List.drop_left]
      exact List.prefix_append body rest
    · rw [parseReported_eq, ClassRecord.parse, parse_eq_error_iff.2 hread]
      rfl

/-- The file of the class `A` with a byte too many in the body of its source file. -/
def crowdedClassBytes : Bytes :=
  ClassFile.fieldClassBytes.take 60 ++ [0, 5, 0, 0, 0, 3, 0, 1, 7]

/-- The constant pool of that file. -/
def fieldClassPool : ClassFile.ConstantPool :=
  ⟨#[none, some (.utf8 "A"), some (.classRef 1), some (.utf8 "x"), some (.utf8 "I"),
    some (.utf8 "SourceFile")]⟩

open ClassFile in
/-- The body of the source file is come to. -/
theorem attributeBody_crowded :
    AttributeBody crowdedClassBytes .classAttributes 66 [0, 1, 7]
      (ClassAttribute.sourceFile <$> readText fieldClassPool) := by
  have htable : throughMethods ⟨0, crowdedClassBytes⟩ =
      .ok (fieldClassPool, ⟨58, crowdedClassBytes.drop 58⟩) := rfl
  refine .ofClass htable ?_
  have hcount : Reader.u2 ⟨58, crowdedClassBytes.drop 58⟩ =
      .ok (1, ⟨60, crowdedClassBytes.drop 60⟩) := rfl
  have hhead : attributeHead ⟨60, crowdedClassBytes.drop 60⟩ =
      .ok ((5, 66, [0, 1, 7]), ⟨69, []⟩) := rfl
  exact .mk hcount Nat.zero_lt_one rfl hhead rfl rfl

open ClassFile in
/-- The extra byte is reported where it stands in the file, not where it stands in the body. -/
theorem malformed_located_crowded :
    [0, 1, 7] <+: crowdedClassBytes.drop 66 ∧ ∃ start,
      ClassRecord.parseReported crowdedClassBytes =
        .error (.inSection .classAttributes start (.bare (.trailingBytes 68 1))) :=
  (malformed_located crowdedClassBytes).2.2 .classAttributes 66 [0, 1, 7] ClassAttribute
    (ClassAttribute.sourceFile <$> readText fieldClassPool) (.trailingBytes 2 1)
    attributeBody_crowded rfl

end TypeAtlas
