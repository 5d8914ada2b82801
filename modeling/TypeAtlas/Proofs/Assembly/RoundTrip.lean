import TypeAtlas.Proofs.Assembly.Members

/-!
# Classes survive writing

`parse_assemble`: the class file that is assembled from a description is accepted, and what is read
from it is the class that the description asks for, whatever the description, as long as it fits
into a class file at all.
-/

set_option autoImplicit false

namespace TypeAtlas.Assembly

open ClassFile (ClassAttribute ConstantPool Reader Reads ReadsAll classAttribute)
open PoolBuilder

variable {q : PoolBuilder}

/-! ## Class attributes -/

/-- An inner-class entry is read back, and takes eight bytes. -/
theorem ensures_writeInner (hq : q.Fits) (entry : InnerSpec) :
    Ensures q entry.write fun bytes =>
      Reads bytes (ClassFile.readInnerClass q.content) entry.content ∧ bytes.length = 8 := by
  refine (ensures_classRef hq entry.inner).bind fun inner =>
    (ensures_classRef? hq entry.outer).bind fun outer =>
    (ensures_utf8? hq entry.innerName).bind fun innerName =>
    Ensures.pure fun hname houter hinner => ⟨?_, ?_⟩
  · simp only [List.append_assoc]
    refine (Reads.u2 _).bind ((Reads.u2 _).bind ((Reads.u2 _).bind ((Reads.u2 _).bind_nil ?_)))
    exact Reads.lift_bind hinner.1 (Reads.lift_bind houter (Reads.lift_bind hname Reads.pure))
  · simp only [List.length_append, length_word16]

/-- The place of a declaration is read back, and takes four bytes. -/
theorem ensures_writeEnclosing (hq : q.Fits) (place : EnclosingSpec) :
    Ensures q place.write fun bytes =>
      Reads bytes (ClassFile.readEnclosingMethod q.content) place.content ∧ bytes.length = 4 := by
  obtain ⟨owner, method⟩ := place
  refine (ensures_classRef hq owner).bind fun ownerIndex => ?_
  cases method with
  | none =>
    refine Ensures.pure fun howner => ⟨?_, rfl⟩
    exact (Reads.index howner.1).bind ((Reads.u2 _).bind_nil (Reads.lift_bind rfl Reads.pure))
  | some method =>
    refine (ensures_nameAndType hq method.1 method.2).bind fun index =>
      Ensures.pure fun hmethod howner => ⟨?_, rfl⟩
    -- a name and type that is there has an index other than zero
    have hlook : (if index = 0 then Except.ok none
        else some <$> q.content.getNameAndType index) = .ok (some method) := by
      rw [if_neg hmethod.2, hmethod.1]
      rfl
    exact (Reads.index howner.1).bind ((Reads.u2 _).bind_nil (Reads.lift_bind hlook Reads.pure))

theorem classAttribute_eq_none {name : String} (h : name ∉ recognisedNames)
    (pool : ConstantPool) : classAttribute pool name = none := by
  unfold classAttribute
  split
  all_goals first | rfl | exact absurd (by decide) h

/-- Further attributes are skipped. -/
theorem attributes_extra (hq : q.Fits) {extra : List (String × Bytes)}
    (h : ∀ a ∈ extra, a.1 ∉ recognisedNames ∧ a.2.length < 4294967296) :
    Attributes q (classAttribute q.content)
      (extra.map fun (name, body) => named name (pure body)) [] := by
  induction extra with
  | nil => exact Attributes.nil
  | cons first rest ih =>
    obtain ⟨hname, hlength⟩ := h first List.mem_cons_self
    have hfirst : Attributes q (classAttribute q.content) [named first.1 (pure first.2)] [] :=
      Attributes.skipped hq (classAttribute_eq_none hname _) (Ensures.pure hlength)
    exact hfirst.append (ih fun a ha => h a (List.mem_cons_of_mem first ha))

/-- The values of the attributes of a class. -/
def ClassSpec.values (c : ClassSpec) : List ClassAttribute :=
  c.sourceFile.toList.map .sourceFile ++ c.signature.toList.map .signature ++
    listed c.visible (.visible (c.visible.map AnnotationSpec.content)) ++
    listed c.invisible (.invisible (c.invisible.map AnnotationSpec.content)) ++
    listed c.innerClasses (.innerClasses (c.innerClasses.map InnerSpec.content)) ++
    (c.enclosingMethod.map EnclosingSpec.content).toList.map .enclosingMethod

theorem attributes_innerClasses (hq : q.Fits) {entries : List InnerSpec}
    (h : entries.length ≤ 65535) :
    Attributes q (classAttribute q.content) (tableAttribute "InnerClasses" InnerSpec.write entries)
      (listed entries (.innerClasses (entries.map InnerSpec.content))) := by
  have hsize : 2 + (entries.map fun _ => 8).sum < 4294967296 := by
    rw [List.map_const', List.sum_replicate_nat]
    omega
  exact Attributes.table hq rfl h hsize fun entry _ => ensures_writeInner hq entry

theorem attributes_enclosing (hq : q.Fits) (place : Option EnclosingSpec) :
    Attributes q (classAttribute q.content)
      (match place with
        | some place => [named "EnclosingMethod" place.write]
        | none => [])
      ((place.map EnclosingSpec.content).toList.map .enclosingMethod) := by
  cases place with
  | none => exact Attributes.nil
  | some place =>
    apply Attributes.recognised hq rfl
    refine (ensures_writeEnclosing hq place).weaken fun body hbody => ⟨hbody.1.map _, ?_⟩
    rw [hbody.2]
    decide

theorem attributes_class (hq : q.Fits) {c : ClassSpec} (h : c.Fits) :
    Attributes q (classAttribute q.content) c.attributes c.values := by
  have hsource : Attributes q (classAttribute q.content) (textAttribute "SourceFile" c.sourceFile)
      (c.sourceFile.toList.map .sourceFile) := Attributes.text hq rfl c.sourceFile
  have hsignature : Attributes q (classAttribute q.content) (textAttribute "Signature" c.signature)
      (c.signature.toList.map .signature) := Attributes.text hq rfl c.signature
  have hvisible : Attributes q (classAttribute q.content) (visibleAttribute c.visible)
      (listed c.visible (.visible (c.visible.map AnnotationSpec.content))) :=
    attributes_annotations hq rfl h.visible
  have hinvisible : Attributes q (classAttribute q.content)
      (tableAttribute "RuntimeInvisibleAnnotations" writeAnnotationTree c.invisible)
      (listed c.invisible (.invisible (c.invisible.map AnnotationSpec.content))) :=
    attributes_annotations hq rfl h.invisible
  have hknown := ((((hsource.append hsignature).append hvisible).append hinvisible).append
    (attributes_innerClasses hq h.innerClasses)).append
    (attributes_enclosing hq c.enclosingMethod)
  have hall := hknown.append (attributes_extra hq h.extra)
  rw [List.append_nil] at hall
  exact hall

theorem gather_class (c : ClassSpec) :
    ClassAttribute.gather c.values =
      { signature := c.signature
        sourceFile := c.sourceFile
        visible := c.visible.map AnnotationSpec.content
        invisible := c.invisible.map AnnotationSpec.content
        innerClasses := c.innerClasses.map InnerSpec.content
        enclosingMethod := c.enclosingMethod.map EnclosingSpec.content } := by
  unfold ClassAttribute.gather ClassSpec.values
  simp only [List.filterMap_append, List.flatMap_append, filterMap_listed, flatMap_listed,
    map_of_isEmpty, ClassAttribute.signature?, ClassAttribute.sourceFile?,
    ClassAttribute.visibles, ClassAttribute.invisibles, ClassAttribute.innerClassEntries,
    ClassAttribute.enclosingMethod?]
  cases c.sourceFile <;> cases c.signature <;> cases c.enclosingMethod <;>
    simp [List.filterMap_cons, ClassAttribute.signature?, ClassAttribute.sourceFile?,
      ClassAttribute.visibles, ClassAttribute.invisibles, ClassAttribute.innerClassEntries,
      ClassAttribute.enclosingMethod?]

/-! ## Classes -/

/-- What follows the pool is read back, section by section. -/
def BodyReads (pool : ConstantPool) (c : ClassSpec) (body : Bytes) : Prop :=
  ∃ info interfaces fields methods attributes : Bytes,
    body = info ++ (interfaces ++ (fields ++ (methods ++ attributes))) ∧
    Reads info (ClassFile.readClassInfo pool) (c.flags, c.name, c.superClass) ∧
    Reads interfaces (Reader.table (ClassFile.readClassName pool)) c.interfaces ∧
    Reads fields (ClassFile.readMemberTable .field (ClassFile.readMember pool FieldType.parse))
      (c.fields.map FieldSpec.content) ∧
    Reads methods (ClassFile.readMemberTable .method (ClassFile.readMember pool MethodType.parse))
      (c.methods.map MethodSpec.content) ∧
    ReadsAll attributes (ClassFile.readClassAttributes pool) (ClassAttribute.gather c.values)

theorem ensures_writeBody (hq : q.Fits) {c : ClassSpec} (h : c.Fits) :
    Ensures q c.writeBody (BodyReads q.content c) := by
  have hinterfaces : Ensures q (writeTable writeClassRef c.interfaces) fun bytes =>
      Reads bytes (Reader.table (ClassFile.readClassName q.content)) (c.interfaces.map id) :=
    ensures_writeTable_map h.interfaces fun name _ =>
      (ensures_classRef hq name).map fun index hindex => Reads.index hindex.1
  rw [List.map_id] at hinterfaces
  refine (ensures_classRef hq c.name).bind fun thisClass =>
    (ensures_classRef? hq c.superClass).bind fun superClass =>
    hinterfaces.bind fun interfaces =>
    (ensures_memberTable .field h.fieldCount fun f hf =>
      ensures_writeField hq (h.fields f hf)).bind fun fields =>
    (ensures_memberTable .method h.methodCount fun m hm =>
      ensures_writeMethod hq (h.methods m hm)).bind fun methods =>
    ((attributes_class hq h).ensures_write h.attributeCount).bind fun attributes =>
    Ensures.pure fun hattributes hmethods hfields hinterfaces hsuper hthis => ?_
  refine ⟨word16 c.flags ++ (word16 thisClass ++ word16 superClass), interfaces, fields, methods,
    attributes, ?_, ?_, hinterfaces, hfields, hmethods, ?_⟩
  · simp only [List.append_assoc]
  · refine (Reads.u2 _).bind ((Reads.index hthis.1).bind ?_)
    exact (Reads.u2 _).bind_nil (Reads.lift_bind hsuper Reads.pure)
  · exact hattributes.expectEnd

theorem reads_header (version : UInt16) :
    Reads (word32 ClassFile.magic ++ (word16 0 ++ word16 version)) ClassFile.readHeader
      (0, version) :=
  (Reads.u4 _).bind ((Reads.u2 _).bind ((Reads.u2 _).bind_nil Reads.pure))

/-- The class that was asked for is read from the class file that is assembled. -/
theorem parse_assemble (c : ClassSpec) (h : c.Fits) :
    ClassFile.parse c.assemble = .ok c.content := by
  have hbody : BodyReads c.pool.content c (c.writeBody.run {}).1 :=
    (ensures_writeBody h.pool h {} List.prefix_rfl).2
  obtain ⟨info, interfaces, fields, methods, attributes, hsplit, hinfo, hinterfaces, hfields,
    hmethods, hattributes⟩ := hbody
  have hbytes : c.assemble = word32 ClassFile.magic ++ (word16 0 ++ word16 c.majorVersion) ++
      (c.pool.write ++ (info ++ (interfaces ++ (fields ++ (methods ++ attributes))))) := by
    rw [← hsplit]
    show word32 ClassFile.magic ++ word16 0 ++ word16 c.majorVersion ++ c.pool.write ++
      (c.writeBody.run {}).1 = _
    simp only [List.append_assoc]
  -- the sections are read one after another, each where the one before it ends
  rw [gather_class] at hattributes
  have hread : ReadsAll c.assemble ClassFile.read c.content := by
    rw [hbytes]
    apply ((reads_header c.majorVersion).inSection _).bind_all
    apply ((reads_write h.pool).inSection _).bind_all
    refine (hinfo.inSection _).bind_all ((hinterfaces.inSection _).bind_all ?_)
    refine hfields.bind_all (hmethods.bind_all ?_)
    exact (hattributes.inSection _).bind_pure _
  obtain ⟨cursor, hcursor⟩ := hread 0
  rw [ClassFile.parse, StateT.run, hcursor]
  rfl

/-! ## A class with everything in it -/

/-- A marker on a member, with a list of values in it. -/
def sampleMarker : AnnotationSpec :=
  ⟨"a.Ann", [("n", .const (.long 7)),
    ("m", .array [.nested "a.Ann" [("e", .enumConst "a.E" "ONE")], .classLiteral "V"])]⟩

/-- Two accesses in two lines, with a switch between them that has padding. -/
def sampleCode : List Instruction :=
  [.line 7, .getStatic ⟨"a.B", "x", "[I"⟩, .tableSwitch 0 1, .line 8,
    .invokeInterface ⟨"a.I", "go", "()V"⟩, .return]

/-- A class that uses every table. -/
def sampleClass : ClassSpec :=
  ((ClassSpec.plain "a.B").implementing "a.I")
    |>.addField (FieldSpec.annotate { name := "x", descriptor := "[I" } sampleMarker)
    |>.addMethod (({ name := "run", descriptor := "(J)V" : MethodSpec }.throwing "a.Error").withCode
      sampleCode)
    |>.annotateInvisibly sampleMarker
    |>.addInnerClass "a.B$C" (some "a.B") (some "C") 9
    |>.enclosedBy "a.Outer" (some ("f", "()V"))
    |>.addAttribute "Custom" [1, 2, 3]

theorem isClassName_ann : IsClassName "a.Ann" :=
  ⟨by decide, by decide, by decide, by decide, by decide, by decide⟩

theorem isClassName_enum : IsClassName "a.E" :=
  ⟨by decide, by decide, by decide, by decide, by decide, by decide⟩

theorem fits_sampleMarkers : AnnotationsFit [sampleMarker] := by
  refine ⟨by decide, by decide, fun a ha => ?_⟩
  cases List.mem_singleton.1 ha
  refine ⟨isClassName_ann, by decide, trivial, ⟨by decide, ?_⟩, trivial⟩
  exact ⟨⟨isClassName_ann, by decide, isClassName_enum, trivial⟩, Or.inl rfl, trivial⟩

theorem fits_none : AnnotationsFit [] :=
  ⟨by decide, by decide, fun _ h => absurd h List.not_mem_nil⟩

theorem fits_sampleCode : CodeFits sampleCode := by
  refine ⟨fun i hi => ?_, by decide, by decide⟩
  simp only [sampleCode, List.mem_cons, List.not_mem_nil, or_false] at hi
  rcases hi with rfl | rfl | rfl | rfl | rfl | rfl
  · exact fun access h => absurd h (Option.not_mem_none access)
  · rintro access ⟨⟩
    exact ⟨by decide, by decide⟩
  · show (0 : Int32) ≤ 1
    decide
  · exact fun access h => absurd h (Option.not_mem_none access)
  · rintro access ⟨⟩
    exact ⟨by decide +kernel, by decide⟩
  · exact fun access h => absurd h (Option.not_mem_none access)

theorem fits_sampleClass : sampleClass.Fits where
  pool := ⟨by decide +kernel, by decide +kernel⟩
  interfaces := by decide
  fieldCount := by decide
  fields := by
    intro f hf
    cases List.mem_singleton.1 hf
    exact ⟨by decide, fits_sampleMarkers⟩
  methodCount := by decide
  methods := by
    intro m hm
    cases List.mem_singleton.1 hm
    exact ⟨by decide +kernel, fun _ h => Option.some.inj h ▸ fits_sampleCode, by decide, fits_none⟩
  visible := fits_none
  invisible := fits_sampleMarkers
  innerClasses := by decide
  attributeCount := by decide
  extra := by
    intro a ha
    cases List.mem_singleton.1 ha
    decide

theorem parse_assemble_sample : sampleClass.Fits ∧
    ClassFile.parse sampleClass.assemble = .ok sampleClass.content :=
  ⟨fits_sampleClass, parse_assemble sampleClass fits_sampleClass⟩

end TypeAtlas.Assembly
