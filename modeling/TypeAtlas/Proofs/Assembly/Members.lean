import TypeAtlas.Proofs.Assembly.Annotations
import TypeAtlas.Proofs.Assembly.CodeBody

/-!
# Fields and methods survive writing

A field and a method are read back as their descriptions ask for them (`ensures_writeField`,
`ensures_writeMethod`): the attributes that are written are gathered into the same record again.
-/

set_option autoImplicit false

namespace TypeAtlas.Assembly

open ClassFile (MemberAttribute MemberAttributes Reader Reads memberAttribute readMember)
open PoolBuilder

variable {q : PoolBuilder}

/-- A member is read back if its attributes are found again. -/
theorem ensures_writeMember (hq : q.Fits) {τ : Type} {parseType : String → Except Fault τ}
    {descriptor : String} {type : τ} (htype : parseType descriptor = .ok type)
    {writers : List (Assembler Attribute)} {values : List MemberAttribute}
    (hcount : writers.length ≤ 65535)
    (hattributes : Attributes q (memberAttribute q.content) writers values)
    (flags : UInt16) (name : String) :
    Ensures q (writeMember flags name descriptor writers) fun bytes =>
      Reads bytes (readMember q.content parseType)
        { flags, name, descriptor, type
          signature := (MemberAttribute.gather values).signature
          visible := (MemberAttribute.gather values).visible
          invisible := (MemberAttribute.gather values).invisible
          exceptions := (MemberAttribute.gather values).exceptions
          code := (MemberAttribute.gather values).code } := by
  refine (ensures_utf8 hq name).bind fun nameIndex =>
    (ensures_utf8 hq descriptor).bind fun descriptorIndex =>
    (hattributes.ensures_write hcount).bind fun table =>
    Ensures.pure fun htable hdescriptor hname => ?_
  simp only [List.append_assoc]
  refine (Reads.u2 _).bind ((Reads.index hname.1).bind ((Reads.index hdescriptor.1).bind ?_))
  exact Reads.lift_bind htype (htable.bind_nil Reads.pure)

theorem length_visibleAttribute (annotations : List AnnotationSpec) :
    (visibleAttribute annotations).length ≤ 1 :=
  length_tableAttribute _ _ _

/-! ## Fields -/

/-- The values of the attributes of a field. -/
def FieldSpec.values (f : FieldSpec) : List MemberAttribute :=
  f.signature.toList.map .signature ++
    listed f.annotations (.visible (f.annotations.map AnnotationSpec.content))

theorem attributes_field (hq : q.Fits) {f : FieldSpec} (h : f.Fits) :
    Attributes q (memberAttribute q.content)
      (textAttribute "Signature" f.signature ++ visibleAttribute f.annotations) f.values :=
  (Attributes.text hq rfl f.signature).append (attributes_annotations hq rfl h.annotations)

theorem gather_field (f : FieldSpec) :
    MemberAttribute.gather f.values =
      ⟨f.signature, f.annotations.map AnnotationSpec.content, [], [], none⟩ := by
  unfold MemberAttribute.gather FieldSpec.values
  simp only [List.filterMap_append, List.flatMap_append, filterMap_listed, flatMap_listed,
    map_of_isEmpty, MemberAttribute.signature?, MemberAttribute.visibles,
    MemberAttribute.invisibles, MemberAttribute.exceptionNames, MemberAttribute.code?]
  -- what is not in a list of its own is there at most once
  cases f.signature <;> simp [MemberAttribute.signature?, MemberAttribute.visibles,
    MemberAttribute.invisibles, MemberAttribute.exceptionNames, MemberAttribute.code?]

/-- A field is read back as it was asked for. -/
theorem ensures_writeField (hq : q.Fits) {f : FieldSpec} (h : f.Fits) :
    Ensures q f.write fun bytes =>
      Reads bytes (readMember q.content FieldType.parse) f.content := by
  have hcount : (textAttribute "Signature" f.signature ++
      visibleAttribute f.annotations).length ≤ 65535 := by
    have htext := length_textAttribute "Signature" f.signature
    have hvisible := length_visibleAttribute f.annotations
    rw [List.length_append]
    omega
  have hmember := ensures_writeMember hq (eq_ok_valueOr h.descriptor (.object f.descriptor)) hcount
    (attributes_field hq h) f.flags f.name
  rw [gather_field] at hmember
  exact hmember

/-! ## Methods -/

/-- The values of the attributes of a method. -/
def MethodSpec.values (m : MethodSpec) : List MemberAttribute :=
  (m.code.map codeContent).toList.map .code ++
    listed m.throws (.exceptions (m.throws.map Text.internalName)) ++
    m.signature.toList.map .signature ++
    listed m.annotations (.visible (m.annotations.map AnnotationSpec.content))

theorem attributes_code (hq : q.Fits) {m : MethodSpec} (h : m.Fits) :
    Attributes q (memberAttribute q.content)
      (match m.code with
        | some instructions => [named "Code" (writeCode instructions)]
        | none => [])
      ((m.code.map codeContent).toList.map .code) := by
  cases hcode : m.code with
  | none => exact Attributes.nil
  | some instructions =>
    apply Attributes.recognised hq rfl
    apply (ensures_writeCode hq (h.code instructions hcode)).weaken
    intro body hbody
    exact ⟨hbody.1.map _, hbody.2⟩

theorem attributes_exceptions (hq : q.Fits) {m : MethodSpec} (h : m.Fits) :
    Attributes q (memberAttribute q.content)
      (tableAttribute "Exceptions" (fun name => writeClassRef (Text.internalName name)) m.throws)
      (listed m.throws (.exceptions (m.throws.map Text.internalName))) := by
  have hcount := h.throws
  have hsize : 2 + (m.throws.map fun _ => 2).sum < 4294967296 := by
    rw [List.map_const', List.sum_replicate_nat]
    omega
  apply Attributes.table hq rfl hcount hsize
  intro name _
  exact (ensures_classRef hq _).map fun index hindex =>
    ⟨Reads.index hindex.1, length_word16 index⟩

theorem attributes_method (hq : q.Fits) {m : MethodSpec} (h : m.Fits) :
    Attributes q (memberAttribute q.content) m.attributes m.values :=
  (((attributes_code hq h).append (attributes_exceptions hq h)).append
    (Attributes.text hq rfl m.signature)).append (attributes_annotations hq rfl h.annotations)

theorem gather_method (m : MethodSpec) :
    MemberAttribute.gather m.values =
      ⟨m.signature, m.annotations.map AnnotationSpec.content, [],
        m.throws.map Text.internalName, m.code.map codeContent⟩ := by
  unfold MemberAttribute.gather MethodSpec.values
  simp only [List.filterMap_append, List.flatMap_append, filterMap_listed, flatMap_listed,
    map_of_isEmpty, MemberAttribute.signature?, MemberAttribute.visibles,
    MemberAttribute.invisibles, MemberAttribute.exceptionNames, MemberAttribute.code?]
  cases m.signature <;> cases m.code <;> simp [List.filterMap_cons, MemberAttribute.signature?,
    MemberAttribute.visibles, MemberAttribute.invisibles, MemberAttribute.exceptionNames,
    MemberAttribute.code?]

theorem length_attributes_method (m : MethodSpec) : m.attributes.length ≤ 65535 := by
  have hthrows := length_tableAttribute "Exceptions"
    (fun name => writeClassRef (Text.internalName name)) m.throws
  have htext := length_textAttribute "Signature" m.signature
  have hvisible := length_visibleAttribute m.annotations
  unfold MethodSpec.attributes
  rw [List.length_append, List.length_append, List.length_append]
  cases m.code with
  | none =>
    show 0 + _ + _ + _ ≤ 65535
    omega
  | some instructions =>
    show 1 + _ + _ + _ ≤ 65535
    omega

/-- A method is read back as it was asked for. -/
theorem ensures_writeMethod (hq : q.Fits) {m : MethodSpec} (h : m.Fits) :
    Ensures q m.write fun bytes =>
      Reads bytes (readMember q.content MethodType.parse) m.content := by
  have hmember := ensures_writeMember hq (eq_ok_valueOr h.descriptor ⟨[], .void⟩)
    (length_attributes_method m) (attributes_method hq h) m.flags m.name
  rw [gather_method] at hmember
  exact hmember

/-! ## Tables of members -/

theorem reads_members {τ : Type} (part : UInt16 → Section) {item : Reader (Member τ)}
    {bodies : List Bytes} {members : List (Member τ)}
    (h : List.Forall₂ (fun body m => Reads body item m) bodies members) (index : Nat) :
    Reads bodies.flatten (ClassFile.readMembers part item index members.length) members := by
  induction h generalizing index with
  | nil => exact Reads.pure
  | cons hfirst _ ih =>
    exact (hfirst.inSection _).bind ((ih (index + 1)).bind_nil Reads.pure)

/-- A table of members is read back if each of them is. -/
theorem ensures_memberTable {α τ : Type} (part : UInt16 → Section) {item : Reader (Member τ)}
    {write : α → Assembler Bytes} {g : α → Member τ} {entries : List α}
    (hcount : entries.length ≤ 65535)
    (h : ∀ e ∈ entries, Ensures q (write e) fun body => Reads body item (g e)) :
    Ensures q (writeTable write entries) fun bytes =>
      Reads bytes (ClassFile.readMemberTable part item) (entries.map g) := by
  have hmap : List.Forall₂ (fun e m => Ensures q (write e) fun body => Reads body item m)
      entries (entries.map g) :=
    List.forall₂_map_right_iff.2 (List.forall₂_same.2 h)
  refine (Ensures.mapM hmap).bind fun bodies =>
    Ensures.pure fun hbodies => ?_
  have hmembers := reads_members part hbodies 0
  apply ((Reads.u2 _).inSection _).bind
  rw [toNat_ofNat_of_le hcount]
  rw [List.length_map] at hmembers
  exact hmembers

end TypeAtlas.Assembly
