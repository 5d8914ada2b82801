import TypeAtlas.ClassRecord
import TypeAtlas.Proofs.ClassFile.Reads

/-!
# Types in parsed classes

The types that a reference of a parsed class names are those that its descriptor spells
(`typed_of_parse`), and so are the types of its fields and code units (`fieldType_of_parse`,
`methodType_of_parse`). The reader states them once for each reference and each member, so it is
enough to follow these through the readers that hand them on.
-/

set_option autoImplicit false

namespace TypeAtlas

namespace ClassFile

/-- The types of a reference are those that its descriptor spells. -/
def MemberReference.Typed (r : MemberReference) : Prop :=
  ∃ kind : MemberRefKind, (kind == .field) = r.kind.isFieldAccess ∧
    signatureTypes kind r.descriptor = .ok (r.parameterTypes, r.valueType)

/-! ## What a computation yields -/

section Yields

variable {ε α β : Type} {P : α → Prop} {Q : β → Prop}

/-- Every value that a computation returns has a property. -/
def Yields (P : α → Prop) (m : StateT Cursor (Except ε) α) : Prop :=
  ∀ cursor value rest, m cursor = .ok (value, rest) → P value

theorem Yields.pure {value : α} (h : P value) :
    Yields P (pure value : StateT Cursor (Except ε) α) := by
  intro cursor result rest hrun
  cases hrun
  exact h

theorem Yields.bind {m : StateT Cursor (Except ε) α} {f : α → StateT Cursor (Except ε) β}
    (hm : Yields P m) (hf : ∀ value, P value → Yields Q (f value)) : Yields Q (m >>= f) := by
  intro cursor result rest hrun
  change (m cursor >>= fun p => f p.1 p.2) = .ok (result, rest) at hrun
  cases hfirst : m cursor with
  | error e =>
    rw [hfirst] at hrun
    cases hrun
  | ok p =>
    rw [hfirst] at hrun
    exact hf p.1 (hm cursor p.1 p.2 hfirst) p.2 result rest hrun

/-- Of a value that is only handed on, nothing needs to be known. -/
theorem Yields.bind_any {m : StateT Cursor (Except ε) α} {f : α → StateT Cursor (Except ε) β}
    (hf : ∀ value, Yields Q (f value)) : Yields Q (m >>= f) := by
  have hm : Yields (fun _ => True) m := fun _ _ _ _ => trivial
  exact hm.bind fun value _ => hf value

theorem Yields.map {m : StateT Cursor (Except ε) α} {f : α → β} (hm : Yields P m)
    (hf : ∀ value, P value → Q (f value)) : Yields Q (f <$> m) := by
  rw [map_eq_pure_bind]
  exact hm.bind fun value hvalue => Yields.pure (hf value hvalue)

theorem Yields.lift {result : Except Fault α} (h : ∀ value, result = .ok value → P value) :
    Yields P (Reader.lift result) := by
  intro cursor value rest hrun
  cases result with
  | error e => cases hrun
  | ok _ =>
    cases hrun
    exact h value rfl

theorem Yields.times {item : Reader α} (h : Yields P item) (n : Nat) :
    Yields (fun list => ∀ value ∈ list, P value) (Reader.times n item) := by
  induction n with
  | zero => exact Yields.pure fun value hvalue => absurd hvalue List.not_mem_nil
  | succ n ih =>
    refine h.bind fun first hfirst => ih.bind fun others hothers => Yields.pure ?_
    exact List.forall_mem_cons.2 ⟨hfirst, hothers⟩

theorem Yields.table {item : Reader α} (h : Yields P item) :
    Yields (fun list => ∀ value ∈ list, P value) (Reader.table item) :=
  Yields.bind_any fun count => h.times count.toNat

theorem Yields.inSection {part : Section} {content : Reader α} (h : Yields P content) :
    Yields P (content.inSection part) := by
  intro cursor value rest hrun
  unfold Reader.inSection at hrun
  cases hcontent : content cursor with
  | error fault =>
    rw [hcontent] at hrun
    cases hrun
  | ok p =>
    rw [hcontent] at hrun
    cases hrun
    exact h cursor value rest hcontent

end Yields

/-! ## References of a code body -/

theorem typed_memberReference {pool : ConstantPool} {lines : List LineNumber} {pc : Nat}
    {kind : ReferenceKind} {index : PoolIndex} {r : MemberReference}
    (h : memberReference pool lines pc kind index = .ok r) : r.Typed := by
  unfold memberReference at h
  obtain ⟨target, -, h⟩ := bind_eq_ok_iff.1 h
  split at h
  · cases h
  · rename_i hkind
    obtain ⟨types, htypes, h⟩ := bind_eq_ok_iff.1 h
    obtain ⟨owner, -, h⟩ := bind_eq_ok_iff.1 h
    -- the reader states the types of the descriptor it has just parsed
    cases h
    exact ⟨target.kind, by simpa using hkind, htypes⟩

theorem typed_referenceAt {pool : ConstantPool} {lines : List LineNumber} {pc : Nat}
    {opcode : UInt8} {operands : Bytes} {here : Option MemberReference}
    (h : referenceAt pool lines pc opcode operands = .ok here) : ∀ r ∈ here, r.Typed := by
  unfold referenceAt at h
  cases hkind : ReferenceKind.ofOpcode? opcode with
  | none =>
    rw [hkind] at h
    cases h
    exact fun r hr => absurd hr (Option.not_mem_none r)
  | some kind =>
    rw [hkind] at h
    simp only [map_eq_pure_bind] at h
    obtain ⟨found, hfound, h⟩ := bind_eq_ok_iff.1 h
    cases h
    rintro r ⟨⟩
    exact typed_memberReference hfound

theorem typed_scanFrom {pool : ConstantPool} {lines : List LineNumber} {pc : Nat} {code : Bytes}
    {references : List MemberReference} (h : scanFrom pool lines pc code = .ok references) :
    ∀ r ∈ references, r.Typed := by
  fun_induction scanFrom pool lines pc code generalizing references with
  | case1 pc =>
    cases h
    exact fun r hr => absurd hr List.not_mem_nil
  -- the reference at hand, if there is one, and those of the code behind it
  | case2 pc opcode following ih =>
    obtain ⟨length, -, h⟩ := bind_eq_ok_iff.1 h
    split at h
    · cases h
    · rename_i operands rest hsplit
      obtain ⟨here, hhere, h⟩ := bind_eq_ok_iff.1 h
      obtain ⟨others, hothers, h⟩ := bind_eq_ok_iff.1 h
      cases h
      intro r hr
      rcases List.mem_append.1 hr with hr | hr
      · exact typed_referenceAt hhere r (Option.mem_toList.1 hr)
      · exact ih length operands rest hsplit hothers r hr

/-! ## References of a class file -/

/-- The references of a code body are typed. -/
def Code.Typed (code : Code) : Prop := ∀ r ∈ code.references, r.Typed

/-- The references of a code attribute are typed. -/
def MemberAttribute.Typed (a : MemberAttribute) : Prop := ∀ code ∈ a.code?, code.Typed

theorem yields_readCode (pool : ConstantPool) : Yields Code.Typed (readCode pool) := by
  unfold readCode
  refine Yields.bind_any fun maxStack => Yields.bind_any fun maxLocals =>
    Yields.bind_any fun length => Yields.bind_any fun code => Yields.bind_any fun handlers =>
    Yields.bind_any fun _ => Yields.bind_any fun tables => ?_
  refine Yields.bind (Yields.lift fun references => typed_scanFrom) fun references hreferences => ?_
  exact Yields.pure hreferences

theorem yields_attributeEntry {α : Type} {P : α → Prop} {pool : ConstantPool}
    {recognise : String → Option (Reader α)}
    (h : ∀ name content, recognise name = some content → Yields P content) :
    Yields (fun entry => ∀ value ∈ entry, P value) (attributeEntry pool recognise) := by
  unfold attributeEntry
  refine Yields.bind_any fun index => Yields.bind_any fun length => Yields.bind_any fun cursor =>
    Yields.bind_any fun body => Yields.bind_any fun name => ?_
  cases hname : recognise name with
  | none => exact Yields.pure fun value hvalue => absurd hvalue (Option.not_mem_none value)
  | some content =>
    -- a recognised name: the body is read by its reader, to the end
    refine Yields.bind (P := P) (Yields.lift fun value hvalue => ?_) fun value hvalue => ?_
    · unfold Reader.enclosed at hvalue
      obtain ⟨result, hresult, hvalue⟩ := bind_eq_ok_iff.1 hvalue
      obtain ⟨_, -, hvalue⟩ := bind_eq_ok_iff.1 hvalue
      cases hvalue
      exact h name content hname _ result.1 result.2 hresult
    · refine Yields.pure fun other hother => ?_
      rw [← Option.some.inj hother]
      exact hvalue

theorem yields_attributeTable {α : Type} {P : α → Prop} {pool : ConstantPool}
    {recognise : String → Option (Reader α)}
    (h : ∀ name content, recognise name = some content → Yields P content) :
    Yields (fun list => ∀ value ∈ list, P value) (attributeTable pool recognise) := by
  unfold attributeTable
  refine (yields_attributeEntry h).table.bind fun entries hentries => Yields.pure ?_
  intro value hvalue
  obtain ⟨entry, hentry, hsome⟩ := List.mem_filterMap.1 hvalue
  exact hentries entry hentry value hsome

theorem yields_memberAttribute {pool : ConstantPool} {name : String}
    {content : Reader MemberAttribute} (h : memberAttribute pool name = some content) :
    Yields MemberAttribute.Typed content := by
  -- only the code attribute holds references
  have hother : ∀ {α : Type} {reader : Reader α} {f : α → MemberAttribute},
      (∀ value, (f value).code? = none) → Yields MemberAttribute.Typed (f <$> reader) := by
    intro α reader f hf
    refine Yields.map (P := fun _ => True) (fun _ _ _ _ => trivial) fun value _ code hcode => ?_
    rw [hf value] at hcode
    exact absurd hcode (Option.not_mem_none code)
  unfold memberAttribute at h
  split at h
  · exact Option.some.inj h ▸ hother fun _ => rfl
  · exact Option.some.inj h ▸ hother fun _ => rfl
  · exact Option.some.inj h ▸ hother fun _ => rfl
  · exact Option.some.inj h ▸ hother fun _ => rfl
  · refine Option.some.inj h ▸ (yields_readCode pool).map fun code hcode => ?_
    intro other hsame
    rw [← Option.some.inj hsame]
    exact hcode
  · cases h

/-- The references in the body of a member are typed. -/
def Member.Typed {τ : Type} (m : Member τ) : Prop := ∀ code ∈ m.code, code.Typed

theorem yields_readMember {τ : Type} (pool : ConstantPool) (parseType : String → Except Fault τ) :
    Yields Member.Typed (readMember pool parseType) := by
  unfold readMember
  refine Yields.bind_any fun flags => Yields.bind_any fun name => Yields.bind_any fun descriptor =>
    Yields.bind_any fun type => ?_
  refine (yields_attributeTable fun _ _ => yields_memberAttribute).bind fun list hlist => ?_
  refine Yields.pure fun code hcode => ?_
  obtain ⟨a, ha, hbody⟩ := List.mem_filterMap.1 (List.mem_of_getLast? hcode)
  exact hlist a ha code hbody

theorem yields_readMemberTable {τ : Type} {P : Member τ → Prop} {part : UInt16 → Section}
    {item : Reader (Member τ)} (h : Yields P item) :
    Yields (fun list => ∀ m ∈ list, P m) (readMemberTable part item) := by
  have hmembers : ∀ count index,
      Yields (fun list => ∀ m ∈ list, P m) (readMembers part item index count) := by
    intro count
    induction count with
    | zero => exact fun index => Yields.pure fun m hm => absurd hm List.not_mem_nil
    | succ count ih =>
      intro index
      refine h.inSection.bind fun first hfirst => (ih (index + 1)).bind fun others hothers => ?_
      exact Yields.pure (List.forall_mem_cons.2 ⟨hfirst, hothers⟩)
  exact Yields.bind_any fun count => hmembers count.toNat 0

theorem yields_read : Yields (fun file : ClassFile => ∀ m ∈ file.methods, Member.Typed m) read := by
  unfold read
  refine Yields.bind_any fun versions => Yields.bind_any fun pool => Yields.bind_any fun info =>
    Yields.bind_any fun interfaces => Yields.bind_any fun fields => ?_
  refine (yields_readMemberTable (yields_readMember pool _)).bind fun methods hmethods => ?_
  exact Yields.bind_any fun attributes => Yields.pure hmethods

/-! ## Types of a class file -/

/-- The type of a member is what its descriptor spells. -/
def Member.Spelled {τ : Type} (parseType : String → Except Fault τ) (m : Member τ) : Prop :=
  parseType m.descriptor = .ok m.type

theorem yields_readMember_spelled {τ : Type} (pool : ConstantPool)
    (parseType : String → Except Fault τ) :
    Yields (Member.Spelled parseType) (readMember pool parseType) := by
  unfold readMember
  refine Yields.bind_any fun flags => Yields.bind_any fun name => Yields.bind_any fun descriptor =>
    ?_
  refine Yields.bind (Yields.lift fun type htype => htype) fun type htype => ?_
  exact Yields.bind_any fun attributes => Yields.pure htype

theorem yields_read_spelled :
    Yields (fun file : ClassFile => (∀ m ∈ file.fields, Member.Spelled FieldType.parse m) ∧
      ∀ m ∈ file.methods, Member.Spelled MethodType.parse m) read := by
  unfold read
  refine Yields.bind_any fun versions => Yields.bind_any fun pool => Yields.bind_any fun info =>
    Yields.bind_any fun interfaces => ?_
  refine (yields_readMemberTable (yields_readMember_spelled pool _)).bind fun fields hfields => ?_
  refine (yields_readMemberTable (yields_readMember_spelled pool _)).bind fun methods hmethods => ?_
  exact Yields.bind_any fun attributes => Yields.pure ⟨hfields, hmethods⟩

end ClassFile

/-- A parsed class is the record of a class file that was read. -/
theorem exists_read_of_parse {bytes : Bytes} {c : ClassRecord}
    (h : ClassRecord.parse bytes = .ok c) :
    ∃ file rest, ClassFile.read ⟨0, bytes⟩ = .ok (file, rest) ∧
      ClassRecord.ofClassFile file = c := by
  unfold ClassRecord.parse at h
  cases hfile : ClassFile.parse bytes with
  | error e =>
    rw [hfile] at h
    cases h
  | ok file =>
    rw [hfile] at h
    obtain ⟨rest, hread⟩ := ClassFile.parse_eq_ok_iff.1 hfile
    exact ⟨file, rest, hread, Except.ok.inj h⟩

/-- The references of a parsed class are typed. -/
theorem typed_of_parse {bytes : Bytes} {c : ClassRecord} (h : ClassRecord.parse bytes = .ok c) :
    ∀ u ∈ c.codeUnits, ∀ r ∈ u.references, r.Typed := by
  obtain ⟨file, rest, hread, rfl⟩ := exists_read_of_parse h
  intro u hu r hr
  obtain ⟨m, hm, rfl⟩ := List.mem_map.1 hu
  have htyped := ClassFile.yields_read _ file rest hread m hm
  unfold CodeUnit.ofMember at hr
  cases hcode : m.code with
  | none =>
    rw [hcode] at hr
    exact absurd hr List.not_mem_nil
  | some code =>
    rw [hcode] at hr
    exact htyped code hcode r hr

/-! ## Types of members -/

/-- The type of a parsed field is what its descriptor spells. -/
theorem fieldType_of_parse {bytes : Bytes} {c : ClassRecord} (h : ClassRecord.parse bytes = .ok c) :
    ∀ f ∈ c.fields, FieldType.parse f.descriptor = .ok f.type := by
  obtain ⟨file, rest, hread, rfl⟩ := exists_read_of_parse h
  intro f hf
  obtain ⟨m, hm, rfl⟩ := List.mem_map.1 hf
  exact (ClassFile.yields_read_spelled _ file rest hread).1 m hm

/-- The type of a parsed code unit is what its descriptor spells. -/
theorem methodType_of_parse {bytes : Bytes} {c : ClassRecord}
    (h : ClassRecord.parse bytes = .ok c) :
    ∀ u ∈ c.codeUnits, MethodType.parse u.descriptor = .ok u.type := by
  obtain ⟨file, rest, hread, rfl⟩ := exists_read_of_parse h
  intro u hu
  obtain ⟨m, hm, rfl⟩ := List.mem_map.1 hu
  exact (ClassFile.yields_read_spelled _ file rest hread).2 m hm

end TypeAtlas
