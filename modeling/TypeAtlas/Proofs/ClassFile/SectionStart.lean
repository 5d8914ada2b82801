import TypeAtlas.Proofs.ClassFile.Anchored
import TypeAtlas.Proofs.ClassFile.Delimited

/-!
# The sections of a class file as they are read

A class file is read section by section, and a section starts where the readers of everything
before it stop (`ComesTo`). The whole reader fails exactly if the reader of a section does that the
reading comes to, and it names this section and its start (`read_eq_error_of_comesTo`,
`comesTo_of_read_eq_error`). Each field and each method is a section of its own; the count of their
table belongs to the first of them.
-/

set_option autoImplicit false

namespace TypeAtlas

namespace ClassFile

/-! ## Failures of sequences -/

section Failures

variable {α β : Type}

/-- A section and what follows it: the section's own faults are located at its start. -/
theorem section_bind_eq_error_iff {content : Reader α} {part : Section} {f : α → FileReader β}
    {c : Cursor} {r : Rejection} :
    (content.inSection part >>= f) c = .error r ↔
      (∃ fault, content c = .error fault ∧ r = ⟨fault, part, c.offset⟩) ∨
        ∃ value c', content c = .ok (value, c') ∧ f value c' = .error r := by
  show (content.inSection part c >>= fun p => f p.1 p.2) = _ ↔ _
  cases hrun : content c with
  | error fault =>
    rw [inSection_eq_error hrun]
    constructor
    · intro h
      cases h
      exact Or.inl ⟨fault, rfl, rfl⟩
    · rintro (⟨fault', hfault, rfl⟩ | ⟨value, c', hvalue, -⟩)
      · cases hfault
        rfl
      · cases hvalue
  | ok p =>
    rw [inSection_eq_ok_iff.2 hrun]
    constructor
    · exact fun h => Or.inr ⟨p.1, p.2, rfl, h⟩
    · rintro (⟨fault, hfault, -⟩ | ⟨value, c', hvalue, h⟩)
      · cases hfault
      · cases hvalue
        exact h

/-- A section that was read leaves the verdict to what follows it. -/
theorem section_bind_of_ok {content : Reader α} {part : Section} {f : α → FileReader β}
    {c c' : Cursor} {value : α} {r : Rejection} (h : content c = .ok (value, c'))
    (hrest : f value c' = .error r) : (content.inSection part >>= f) c = .error r :=
  section_bind_eq_error_iff.2 (Or.inr ⟨value, c', h, hrest⟩)

/-- A section whose reader fails is blamed. -/
theorem section_bind_of_error {content : Reader α} {part : Section} {f : α → FileReader β}
    {c : Cursor} {fault : Fault} (h : content c = .error fault) :
    (content.inSection part >>= f) c = .error ⟨fault, part, c.offset⟩ :=
  section_bind_eq_error_iff.2 (Or.inl ⟨fault, h, rfl⟩)

/-- Reading an item several times fails exactly if it fails after some of these times. -/
theorem times_eq_error_iff {item : Reader α} {n : Nat} {c : Cursor} {fault : Fault} :
    Reader.times n item c = .error fault ↔
      ∃ index before c', index < n ∧ Reader.times index item c = .ok (before, c') ∧
        item c' = .error fault := by
  induction n generalizing c with
  | zero =>
    constructor
    · intro h
      cases h
    · rintro ⟨index, before, c', hindex, -⟩
      exact absurd hindex (Nat.not_lt_zero index)
  | succ n ih =>
    show (item c >>= fun p => (Reader.times n item p.2 >>= fun q => .ok (p.1 :: q.1, q.2))) = _ ↔ _
    rw [bind_eq_error_iff]
    constructor
    · rintro (hfirst | ⟨p, hfirst, hrest⟩)
      · exact ⟨0, [], c, Nat.succ_pos n, rfl, hfirst⟩
      · rcases bind_eq_error_iff.1 hrest with hothers | ⟨q, -, hq⟩
        · obtain ⟨index, before, c', hindex, hbefore, hitem⟩ := ih.1 hothers
          refine ⟨index + 1, p.1 :: before, c', Nat.succ_lt_succ hindex, ?_, hitem⟩
          exact bind_eq_ok_iff.2 ⟨p, hfirst, bind_eq_ok_iff.2 ⟨(before, c'), hbefore, rfl⟩⟩
        · cases hq
    · rintro ⟨index, before, c', hindex, hbefore, hitem⟩
      cases index with
      | zero =>
        cases hbefore
        exact Or.inl hitem
      | succ index =>
        obtain ⟨p, hfirst, hrest⟩ := bind_eq_ok_iff.1 hbefore
        obtain ⟨q, hothers, hq⟩ := bind_eq_ok_iff.1 hrest
        cases hq
        refine Or.inr ⟨p, hfirst, bind_eq_error_iff.2 (Or.inl ?_)⟩
        exact ih.2 ⟨index, q.1, q.2, Nat.lt_of_succ_lt_succ hindex, hothers, hitem⟩

/-- A table fails if an item fails that its count admits. -/
theorem table_eq_error {item : Reader α} {table first c : Cursor} {count : UInt16} {index : Nat}
    {before : List α} {fault : Fault} (hcount : Reader.u2 table = .ok (count, first))
    (hindex : index < count.toNat) (hbefore : Reader.times index item first = .ok (before, c))
    (hitem : item c = .error fault) : Reader.table item table = .error fault :=
  bind_eq_error_iff.2 (Or.inr ⟨(count, first), hcount,
    times_eq_error_iff.2 ⟨index, before, c, hindex, hbefore, hitem⟩⟩)

end Failures

/-! ## Tables of members -/

section MemberTables

variable {τ : Type}

/-- The parts of a member table as its reading comes to them: the count, if it is cut off, which is
blamed on the first member, and each of the members, after those before it were read. -/
inductive MemberPart (item : Reader (Member τ)) (table : Cursor) :
    UInt16 → Cursor → {α : Type} → Reader α → Prop
  | count {fault : Fault} (h : Reader.u2 table = .error fault) :
      MemberPart item table 0 table Reader.u2
  | member {count : UInt16} {index : Nat} {first c : Cursor} {before : List (Member τ)}
      (hcount : Reader.u2 table = .ok (count, first)) (hindex : index < count.toNat)
      (hbefore : Reader.times index item first = .ok (before, c)) :
      MemberPart item table (UInt16.ofNat index) c item

variable {item : Reader (Member τ)} {part : UInt16 → Section}

/-- Sections only matter for failures: the members are read one after another. -/
theorem readMembers_eq_ok_iff {index count : Nat} {c : Cursor}
    {result : List (Member τ) × Cursor} :
    readMembers part item index count c = .ok result ↔
      Reader.times count item c = .ok result := by
  induction count generalizing index c result with
  | zero =>
    constructor
    · intro h
      cases h
      rfl
    · intro h
      cases h
      rfl
  | succ count ih =>
    show (item.inSection (part (UInt16.ofNat index)) c >>= fun p =>
        (readMembers part item (index + 1) count p.2 >>= fun q => .ok (p.1 :: q.1, q.2))) = _ ↔
      (item c >>= fun p => (Reader.times count item p.2 >>= fun q => .ok (p.1 :: q.1, q.2))) = _
    simp only [bind_eq_ok_iff, inSection_eq_ok_iff, ih, Except.ok.injEq]

/-- The member that fails is the first one that does, and the fault is blamed on it. -/
theorem readMembers_eq_error_iff {index count : Nat} {c : Cursor} {r : Rejection} :
    readMembers part item index count c = .error r ↔
      ∃ done before c' fault, done < count ∧ Reader.times done item c = .ok (before, c') ∧
        item c' = .error fault ∧ r = ⟨fault, part (UInt16.ofNat (index + done)), c'.offset⟩ := by
  induction count generalizing index c with
  | zero =>
    constructor
    · intro h
      cases h
    · rintro ⟨done, before, c', fault, hdone, -⟩
      exact absurd hdone (Nat.not_lt_zero done)
  | succ count ih =>
    rw [readMembers, section_bind_eq_error_iff]
    constructor
    · rintro (⟨fault, hitem, rfl⟩ | ⟨first, c₁, hfirst, hrest⟩)
      · exact ⟨0, [], c, fault, Nat.succ_pos count, rfl, hitem, rfl⟩
      · rcases bind_eq_error_iff.1 hrest with hothers | ⟨q, -, hq⟩
        · obtain ⟨done, before, c', fault, hdone, hbefore, hitem, rfl⟩ := ih.1 hothers
          refine ⟨done + 1, first :: before, c', fault, Nat.succ_lt_succ hdone, ?_, hitem, ?_⟩
          · exact bind_eq_ok_iff.2 ⟨(first, c₁), hfirst,
              bind_eq_ok_iff.2 ⟨(before, c'), hbefore, rfl⟩⟩
          · rw [Nat.add_right_comm, Nat.add_assoc index done 1]
        · cases hq
    · rintro ⟨done, before, c', fault, hdone, hbefore, hitem, rfl⟩
      cases done with
      | zero =>
        cases hbefore
        exact Or.inl ⟨fault, hitem, rfl⟩
      | succ done =>
        obtain ⟨⟨first, c₁⟩, hfirst, hrest⟩ := bind_eq_ok_iff.1 hbefore
        obtain ⟨⟨others, c₂⟩, hothers, hq⟩ := bind_eq_ok_iff.1 hrest
        cases hq
        refine Or.inr ⟨first, c₁, hfirst, bind_eq_error_iff.2 (Or.inl (ih.2 ?_))⟩
        refine ⟨done, others, c', fault, Nat.lt_of_succ_lt_succ hdone, hothers, hitem, ?_⟩
        rw [Nat.add_right_comm, Nat.add_assoc index done 1]

theorem readMemberTable_eq_ok_iff {table : Cursor} {result : List (Member τ) × Cursor} :
    readMemberTable part item table = .ok result ↔ Reader.table item table = .ok result := by
  show (Reader.u2.inSection (part 0) table >>= fun p =>
      readMembers part item 0 p.1.toNat p.2) = _ ↔
    (Reader.u2 table >>= fun p => Reader.times p.1.toNat item p.2) = _
  simp only [bind_eq_ok_iff, inSection_eq_ok_iff, readMembers_eq_ok_iff]

theorem readMemberTable_eq_error_iff {table : Cursor} {r : Rejection} :
    readMemberTable part item table = .error r ↔
      ∃ (α : Type) (content : Reader α) (index : UInt16) (c : Cursor) (fault : Fault),
        MemberPart item table index c content ∧ content c = .error fault ∧
          r = ⟨fault, part index, c.offset⟩ := by
  rw [readMemberTable, section_bind_eq_error_iff]
  constructor
  · rintro (⟨fault, hcount, rfl⟩ | ⟨count, first, hcount, hmembers⟩)
    · exact ⟨_, Reader.u2, 0, table, fault, .count hcount, hcount, rfl⟩
    · obtain ⟨index, before, c, fault, hindex, hbefore, hitem, rfl⟩ :=
        readMembers_eq_error_iff.1 hmembers
      refine ⟨_, item, UInt16.ofNat index, c, fault, .member hcount hindex hbefore, hitem, ?_⟩
      rw [Nat.zero_add]
  · rintro ⟨α, content, index, c, fault, hpart, hfault, rfl⟩
    cases hpart with
    | count _ => exact Or.inl ⟨fault, hfault, rfl⟩
    | member hcount hindex hbefore =>
      refine Or.inr ⟨_, _, hcount, readMembers_eq_error_iff.2 ?_⟩
      refine ⟨_, _, _, fault, hindex, hbefore, hfault, ?_⟩
      rw [Nat.zero_add]

end MemberTables

/-! ## Sections -/

/-- Reads on, and keeps the pool. -/
def keepingPool {α : Type} (before : Reader ConstantPool) (content : ConstantPool → Reader α) :
    Reader ConstantPool := do
  let pool ← before
  let _ ← content pool
  return pool

/-- Reads the header and the constant pool, and keeps the latter. -/
def throughPool : Reader ConstantPool := do
  let _ ← readHeader
  ConstantPool.read

/-- Reads everything up to the end of the class info. -/
def throughInfo : Reader ConstantPool := keepingPool throughPool readClassInfo

/-- Reads everything up to the end of the table of interfaces. -/
def throughInterfaces : Reader ConstantPool :=
  keepingPool throughInfo fun pool => Reader.table (readClassName pool)

/-- Reads everything up to the end of the table of fields. -/
def throughFields : Reader ConstantPool :=
  keepingPool throughInterfaces fun pool => Reader.table (readMember pool FieldType.parse)

/-- Reads everything up to the end of the table of methods. -/
def throughMethods : Reader ConstantPool :=
  keepingPool throughFields fun pool => Reader.table (readMember pool MethodType.parse)

/-- The reading of a file comes to a section, which a reader takes from a position on: everything
before it has been read. -/
inductive ComesTo (bytes : Bytes) : Section → Cursor → {α : Type} → Reader α → Prop
  | header : ComesTo bytes .header ⟨0, bytes⟩ readHeader
  | constantPool {versions : UInt16 × UInt16} {c : Cursor}
      (h : readHeader ⟨0, bytes⟩ = .ok (versions, c)) :
      ComesTo bytes .constantPool c ConstantPool.read
  | classInfo {pool : ConstantPool} {c : Cursor} (h : throughPool ⟨0, bytes⟩ = .ok (pool, c)) :
      ComesTo bytes .classInfo c (readClassInfo pool)
  | interfaces {pool : ConstantPool} {c : Cursor} (h : throughInfo ⟨0, bytes⟩ = .ok (pool, c)) :
      ComesTo bytes .interfaces c (Reader.table (readClassName pool))
  | field {pool : ConstantPool} {table c : Cursor} {index : UInt16} {α : Type}
      {content : Reader α} (h : throughInterfaces ⟨0, bytes⟩ = .ok (pool, table))
      (hpart : MemberPart (readMember pool FieldType.parse) table index c content) :
      ComesTo bytes (.field index) c content
  | method {pool : ConstantPool} {table c : Cursor} {index : UInt16} {α : Type}
      {content : Reader α} (h : throughFields ⟨0, bytes⟩ = .ok (pool, table))
      (hpart : MemberPart (readMember pool MethodType.parse) table index c content) :
      ComesTo bytes (.method index) c content
  | classAttributes {pool : ConstantPool} {c : Cursor}
      (h : throughMethods ⟨0, bytes⟩ = .ok (pool, c)) :
      ComesTo bytes .classAttributes c (readClassAttributes pool)

/-- A part of a member table starts at one place. -/
theorem MemberPart.unique {τ α α' : Type} {item : Reader (Member τ)} {table c c' : Cursor}
    {index : UInt16} {content : Reader α} {content' : Reader α'}
    (h : MemberPart item table index c content) (h' : MemberPart item table index c' content') :
    c = c' := by
  cases h with
  | count hcount =>
    generalize hindex : (0 : UInt16) = index at h'
    cases h' with
    | count _ => rfl
    | member hcount' _ _ => cases hcount.symm.trans hcount'
  | @member count i _ _ _ hcount hi hbefore =>
    generalize hindex : UInt16.ofNat i = index at h'
    cases h' with
    | count hcount' => cases hcount.symm.trans hcount'
    | @member _ i' _ _ _ hcount' hi' hbefore' =>
      cases hcount.symm.trans hcount'
      -- the count fits into two bytes, so the numbers of the members do
      have hbound : count.toNat < 2 ^ 16 := count.toNat_lt
      have heq : i = i' := by
        have := congrArg UInt16.toNat hindex
        rw [UInt16.toNat_ofNat_of_lt' (Nat.lt_trans hi hbound),
          UInt16.toNat_ofNat_of_lt' (Nat.lt_trans hi' hbound)] at this
        exact this
      subst heq
      cases hbefore.symm.trans hbefore'
      rfl

/-- A section starts at one place. -/
theorem ComesTo.unique {bytes : Bytes} {part : Section} {c c' : Cursor} {α α' : Type}
    {content : Reader α} {content' : Reader α'} (h : ComesTo bytes part c content)
    (h' : ComesTo bytes part c' content') : c = c' := by
  cases h with
  | header =>
    cases h'
    rfl
  | constantPool h =>
    cases h' with
    | constantPool h' =>
      cases h.symm.trans h'
      rfl
  | classInfo h =>
    cases h' with
    | classInfo h' =>
      cases h.symm.trans h'
      rfl
  | interfaces h =>
    cases h' with
    | interfaces h' =>
      cases h.symm.trans h'
      rfl
  | field h hpart =>
    cases h' with
    | field h' hpart' =>
      cases h.symm.trans h'
      exact hpart.unique hpart'
  | method h hpart =>
    cases h' with
    | method h' hpart' =>
      cases h.symm.trans h'
      exact hpart.unique hpart'
  | classAttributes h =>
    cases h' with
    | classAttributes h' =>
      cases h.symm.trans h'
      rfl

theorem keepingPool_eq_ok_iff {α : Type} {before : Reader ConstantPool}
    {content : ConstantPool → Reader α} {c c' : Cursor} {pool : ConstantPool} :
    keepingPool before content c = .ok (pool, c') ↔
      ∃ middle value, before c = .ok (pool, middle) ∧ content pool middle = .ok (value, c') := by
  constructor
  · intro h
    obtain ⟨⟨pool', middle⟩, hbefore, h⟩ := bind_eq_ok_iff.1 h
    obtain ⟨⟨value, c''⟩, hcontent, h⟩ := bind_eq_ok_iff.1 h
    cases h
    exact ⟨middle, value, hbefore, hcontent⟩
  · rintro ⟨middle, value, hbefore, hcontent⟩
    exact bind_eq_ok_iff.2 ⟨(pool, middle), hbefore,
      bind_eq_ok_iff.2 ⟨(value, c'), hcontent, rfl⟩⟩

/-- If the reader of a section fails that the reading comes to, the file is rejected, and the
section and its start are named. -/
theorem read_eq_error_of_comesTo {bytes : Bytes} {part : Section} {c : Cursor} {α : Type}
    {content : Reader α} {fault : Fault} (hcomes : ComesTo bytes part c content)
    (hfault : content c = .error fault) : read ⟨0, bytes⟩ = .error ⟨fault, part, c.offset⟩ := by
  unfold read
  cases hcomes with
  | header => exact section_bind_of_error hfault
  | constantPool hheader =>
    exact section_bind_of_ok hheader (section_bind_of_error hfault)
  | classInfo h =>
    obtain ⟨_, hheader, hpool⟩ := bind_eq_ok_iff.1 h
    exact section_bind_of_ok hheader (section_bind_of_ok hpool (section_bind_of_error hfault))
  | interfaces h =>
    obtain ⟨_, _, h, hinfo⟩ := keepingPool_eq_ok_iff.1 h
    obtain ⟨_, hheader, hpool⟩ := bind_eq_ok_iff.1 h
    exact section_bind_of_ok hheader (section_bind_of_ok hpool (section_bind_of_ok hinfo
      (section_bind_of_error hfault)))
  | field h hpart =>
    obtain ⟨_, _, h, hnames⟩ := keepingPool_eq_ok_iff.1 h
    obtain ⟨_, _, h, hinfo⟩ := keepingPool_eq_ok_iff.1 h
    obtain ⟨_, hheader, hpool⟩ := bind_eq_ok_iff.1 h
    refine section_bind_of_ok hheader (section_bind_of_ok hpool (section_bind_of_ok hinfo
      (section_bind_of_ok hnames (bind_eq_error_iff.2 (Or.inl ?_)))))
    exact readMemberTable_eq_error_iff.2 ⟨_, _, _, _, fault, hpart, hfault, rfl⟩
  | method h hpart =>
    obtain ⟨_, _, h, hfields⟩ := keepingPool_eq_ok_iff.1 h
    obtain ⟨_, _, h, hnames⟩ := keepingPool_eq_ok_iff.1 h
    obtain ⟨_, _, h, hinfo⟩ := keepingPool_eq_ok_iff.1 h
    obtain ⟨_, hheader, hpool⟩ := bind_eq_ok_iff.1 h
    refine section_bind_of_ok hheader (section_bind_of_ok hpool (section_bind_of_ok hinfo
      (section_bind_of_ok hnames (bind_eq_error_iff.2 (Or.inr ?_)))))
    refine ⟨_, readMemberTable_eq_ok_iff.2 hfields, bind_eq_error_iff.2 (Or.inl ?_)⟩
    exact readMemberTable_eq_error_iff.2 ⟨_, _, _, _, fault, hpart, hfault, rfl⟩
  | classAttributes h =>
    obtain ⟨_, _, h, hmethods⟩ := keepingPool_eq_ok_iff.1 h
    obtain ⟨_, _, h, hfields⟩ := keepingPool_eq_ok_iff.1 h
    obtain ⟨_, _, h, hnames⟩ := keepingPool_eq_ok_iff.1 h
    obtain ⟨_, _, h, hinfo⟩ := keepingPool_eq_ok_iff.1 h
    obtain ⟨_, hheader, hpool⟩ := bind_eq_ok_iff.1 h
    refine section_bind_of_ok hheader (section_bind_of_ok hpool (section_bind_of_ok hinfo
      (section_bind_of_ok hnames (bind_eq_error_iff.2 (Or.inr ?_)))))
    refine ⟨_, readMemberTable_eq_ok_iff.2 hfields, bind_eq_error_iff.2 (Or.inr ?_)⟩
    exact ⟨_, readMemberTable_eq_ok_iff.2 hmethods, section_bind_of_error hfault⟩

/-- If the file is rejected, the reading comes to a section whose reader fails. -/
theorem comesTo_of_read_eq_error {bytes : Bytes} {r : Rejection}
    (h : read ⟨0, bytes⟩ = .error r) :
    ∃ (α : Type) (content : Reader α) (c : Cursor), ComesTo bytes r.part c content ∧
      content c = .error r.fault ∧ c.offset = r.start := by
  unfold read at h
  rcases section_bind_eq_error_iff.1 h with ⟨fault, hfault, rfl⟩ | ⟨versions, c₁, hheader, h⟩
  · exact ⟨_, _, _, .header, hfault, rfl⟩
  rcases section_bind_eq_error_iff.1 h with ⟨fault, hfault, rfl⟩ | ⟨pool, c₂, hpool, h⟩
  · exact ⟨_, _, _, .constantPool hheader, hfault, rfl⟩
  have hthroughPool : throughPool ⟨0, bytes⟩ = .ok (pool, c₂) :=
    bind_eq_ok_iff.2 ⟨(versions, c₁), hheader, hpool⟩
  rcases section_bind_eq_error_iff.1 h with ⟨fault, hfault, rfl⟩ | ⟨info, c₃, hinfo, h⟩
  · exact ⟨_, _, _, .classInfo hthroughPool, hfault, rfl⟩
  have hthroughInfo := keepingPool_eq_ok_iff.2 ⟨c₂, info, hthroughPool, hinfo⟩
  rcases section_bind_eq_error_iff.1 h with ⟨fault, hfault, rfl⟩ | ⟨names, c₄, hnames, h⟩
  · exact ⟨_, _, _, .interfaces hthroughInfo, hfault, rfl⟩
  have hthroughInterfaces : throughInterfaces ⟨0, bytes⟩ = .ok (pool, c₄) :=
    keepingPool_eq_ok_iff.2 ⟨c₃, names, hthroughInfo, hnames⟩
  rcases bind_eq_error_iff.1 h with h | ⟨⟨fields, c₅⟩, hfields, h⟩
  · obtain ⟨α, content, index, c, fault, hpart, hfault, rfl⟩ := readMemberTable_eq_error_iff.1 h
    exact ⟨_, _, _, .field hthroughInterfaces hpart, hfault, rfl⟩
  have hthroughFields : throughFields ⟨0, bytes⟩ = .ok (pool, c₅) :=
    keepingPool_eq_ok_iff.2
      ⟨c₄, fields, hthroughInterfaces, readMemberTable_eq_ok_iff.1 hfields⟩
  rcases bind_eq_error_iff.1 h with h | ⟨⟨methods, c₆⟩, hmethods, h⟩
  · obtain ⟨α, content, index, c, fault, hpart, hfault, rfl⟩ := readMemberTable_eq_error_iff.1 h
    exact ⟨_, _, _, .method hthroughFields hpart, hfault, rfl⟩
  have hthroughMethods : throughMethods ⟨0, bytes⟩ = .ok (pool, c₆) :=
    keepingPool_eq_ok_iff.2
      ⟨c₅, methods, hthroughFields, readMemberTable_eq_ok_iff.1 hmethods⟩
  rcases section_bind_eq_error_iff.1 h with ⟨fault, hfault, rfl⟩ | ⟨attributes, c₇, -, h⟩
  · exact ⟨_, _, _, .classAttributes hthroughMethods, hfault, rfl⟩
  · cases h

end ClassFile

end TypeAtlas
