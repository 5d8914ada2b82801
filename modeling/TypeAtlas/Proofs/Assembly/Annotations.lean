import TypeAtlas.Proofs.Assembly.Attributes
import TypeAtlas.Proofs.Assembly.Fits

/-!
# Annotations survive writing

The values of an annotation are read back from their bytes (`ensures_writeValue`), by induction on
the value. The reader is given a bound on how deep values nest; the number of bytes of a value is
always enough, since each nested value is shorter than the value around it.
-/

set_option autoImplicit false

namespace TypeAtlas.Assembly

open ClassFile (ConstantPool PoolIndex Reader Reads readAnnotationTree readAnnotationWith
  readConst? readElementValue)
open PoolBuilder

variable {pool : ConstantPool} {holder : String}

/-! ## Constants -/

theorem getInteger_of_get {index : PoolIndex} {value : Int32}
    (h : pool.get index = .ok (.integer value)) : pool.getInteger index = .ok value := by
  rw [ConstantPool.getInteger, h]
  rfl

theorem getLong_of_get {index : PoolIndex} {value : Int64}
    (h : pool.get index = .ok (.long value)) : pool.getLong index = .ok value := by
  rw [ConstantPool.getLong, h]
  rfl

theorem getFloat_of_get {index : PoolIndex} {bits : UInt32}
    (h : pool.get index = .ok (.float bits)) : pool.getFloat index = .ok bits := by
  rw [ConstantPool.getFloat, h]
  rfl

theorem getDouble_of_get {index : PoolIndex} {bits : UInt64}
    (h : pool.get index = .ok (.double bits)) : pool.getDouble index = .ok bits := by
  rw [ConstantPool.getDouble, h]
  rfl

/-- A text stands in for the string constant that holds it. -/
theorem getString_of_get {index : PoolIndex} {text : String}
    (h : pool.get index = .ok (.utf8 text)) : pool.getString index = .ok text := by
  rw [ConstantPool.getString, h]
  rfl

theorem reads_looked_up {α β : Type} {index : PoolIndex} {look : PoolIndex → Except Fault α}
    {a : α} (h : look index = .ok a) (f : α → β) :
    Reads (word16 index) (do return f (← Reader.lift (look (← Reader.u2)))) (f a) :=
  (Reads.u2 _).bind_nil (Reads.lift_bind h Reads.pure)

/-- The letter of a constant's kind says how to read the constant back. -/
theorem reads_const {index : PoolIndex} (value : ConstValue)
    (h : pool.get index = .ok (constConstant value)) :
    ∃ read, readConst? pool (constTag value) = some read ∧ Reads (word16 index) read value := by
  cases value with
  | byte value =>
    have hvalue : value.toInt32.toInt8 = value := Int8.toInt8_toInt32 value
    have hread := reads_looked_up (getInteger_of_get h) fun n => ConstValue.byte n.toInt8
    rw [hvalue] at hread
    exact ⟨_, rfl, hread⟩
  | char unit =>
    have hvalue : unit.toUInt32.toInt32.toUInt32.toUInt16 = unit := UInt16.toUInt16_toUInt32 unit
    have hread := reads_looked_up (getInteger_of_get h) fun n =>
      ConstValue.char n.toUInt32.toUInt16
    rw [hvalue] at hread
    exact ⟨_, rfl, hread⟩
  | short value =>
    have hvalue : value.toInt32.toInt16 = value := Int16.toInt16_toInt32 value
    have hread := reads_looked_up (getInteger_of_get h) fun n => ConstValue.short n.toInt16
    rw [hvalue] at hread
    exact ⟨_, rfl, hread⟩
  | boolean value =>
    have hvalue : ((if value then 1 else 0 : Int32) != 0) = value := by cases value <;> rfl
    have hread := reads_looked_up (getInteger_of_get h) fun n => ConstValue.boolean (n != 0)
    rw [hvalue] at hread
    exact ⟨_, rfl, hread⟩
  | int value => exact ⟨_, rfl, reads_looked_up (getInteger_of_get h) ConstValue.int⟩
  | long value => exact ⟨_, rfl, reads_looked_up (getLong_of_get h) ConstValue.long⟩
  | float bits => exact ⟨_, rfl, reads_looked_up (getFloat_of_get h) ConstValue.float⟩
  | double bits => exact ⟨_, rfl, reads_looked_up (getDouble_of_get h) ConstValue.double⟩
  | string text => exact ⟨_, rfl, reads_looked_up (getString_of_get h) ConstValue.string⟩

theorem ofNat_constTag (value : ConstValue) :
    Char.ofNat (letterByte (constTag value)).toNat = constTag value := by
  cases value <;> rfl

/-! ## Values -/

/-- Reads the name and the value of an element, given how to read the value. -/
def readElement (pool : ConstantPool) (value : Reader (ElementValue String)) :
    Reader (String × ElementValue String) := do
  let name ← Reader.lift (pool.getUtf8 (← Reader.u2))
  return (name, ← value)

/-- An annotation is read back if its elements are. -/
theorem reads_annotationWith {value : Reader (ElementValue String)} {index : PoolIndex}
    {type : String} {count : Nat} {body : Bytes} {elements : List (String × ElementValue String)}
    (hindex : pool.getUtf8 index = .ok (descriptorOf type)) (htype : IsClassName type)
    (hcount : count ≤ 65535)
    (hbody : Reads body (Reader.times count (readElement pool value)) elements) :
    Reads (word16 index ++ (count16 count ++ body)) (readAnnotationWith pool holder value)
      ⟨descriptorOf type, type, elements⟩ := by
  have hclass : ClassFile.attributeClass holder (descriptorOf type) = .ok type := by
    rw [ClassFile.attributeClass, classNameOfDescriptor_descriptorOf htype]
  refine Reads.index_bind hindex (Reads.lift_bind hclass ?_)
  exact (Reads.table hcount hbody).bind_nil Reads.pure

theorem typeNameOfLiteral_eq {descriptor : String}
    (h : descriptor = "V" ∨ (FieldType.parse descriptor).isOk = true) :
    typeNameOfLiteral descriptor =
      .ok (valueOr descriptor (typeNameOfLiteral descriptor)) := by
  cases hname : typeNameOfLiteral descriptor with
  | ok name => rfl
  | error fault =>
    unfold typeNameOfLiteral at hname
    rcases h with rfl | h
    · cases hname
    · split at hname
      · cases hname
      · cases hparse : FieldType.parse descriptor with
        | ok type =>
          rw [hparse] at hname
          cases hname
        | error fault' =>
          rw [hparse] at h
          cases h

theorem size_pos (value : ValueSpec) : 0 < value.size := by
  cases value <;> exact Nat.succ_pos _

theorem exists_depth {value : ValueSpec} {depth : Nat} (h : value.size ≤ depth) :
    ∃ further, depth = further + 1 :=
  Nat.exists_eq_succ_of_ne_zero (Nat.ne_of_gt (Nat.lt_of_lt_of_le (size_pos value) h))

mutual

/-- A value is read back from its bytes, of which there are as many as its size says. -/
theorem ensures_writeValue {q : PoolBuilder} (hq : q.Fits) (holder : String) :
    (value : ValueSpec) → value.Fits → Ensures q (writeValue value) fun bytes =>
      bytes.length = value.size ∧ ∀ depth, value.size ≤ depth →
        Reads bytes (readElementValue q.content holder depth) value.content
  | .const value, _ => by
    refine (ensures_add hq _).bind fun index => Ensures.pure fun hindex => ⟨rfl, ?_⟩
    intro depth hdepth
    obtain ⟨depth, rfl⟩ := exists_depth hdepth
    obtain ⟨read, hread, hreads⟩ := reads_const value hindex.1
    refine Reads.u1_bind ?_
    simp only [ofNat_constTag, hread]
    exact hreads.bind_nil Reads.pure
  | .enumConst type name, h => by
    refine (ensures_utf8 hq (descriptorOf type)).bind fun typeIndex =>
      (ensures_utf8 hq name).bind fun nameIndex => Ensures.pure fun hname htype => ⟨rfl, ?_⟩
    intro depth hdepth
    obtain ⟨depth, rfl⟩ := exists_depth hdepth
    have hclass : ClassFile.attributeClass holder (descriptorOf type) = .ok type := by
      rw [ClassFile.attributeClass, classNameOfDescriptor_descriptorOf h]
    refine Reads.u1_bind ((Reads.u2 _).bind ((Reads.u2 _).bind_nil ?_))
    exact Reads.lift_bind htype.1 (Reads.lift_bind hclass (Reads.lift_bind hname.1 Reads.pure))
  | .classLiteral descriptor, h => by
    refine (ensures_utf8 hq descriptor).bind fun index => Ensures.pure fun hindex => ⟨rfl, ?_⟩
    intro depth hdepth
    obtain ⟨depth, rfl⟩ := exists_depth hdepth
    refine Reads.u1_bind ((Reads.u2 _).bind_nil (Reads.lift_bind hindex.1 ?_))
    exact Reads.lift_bind (typeNameOfLiteral_eq h) Reads.pure
  | .nested type elements, h => by
    refine (ensures_utf8 hq (descriptorOf type)).bind fun index =>
      (ensures_writeElements hq holder elements h.2.2).bind fun body =>
      Ensures.pure fun hbody hindex => ?_
    refine ⟨?_, fun depth hdepth => ?_⟩
    · simp only [List.length_cons, List.length_append, length_word16, length_count16, hbody.1,
        ValueSpec.size]
      omega
    · obtain ⟨depth, rfl⟩ := exists_depth hdepth
      -- the bound left for the elements is one less, and they are shorter by more than that
      rw [ValueSpec.size] at hdepth
      have helements := hbody.2 depth (by omega)
      exact Reads.u1_bind ((reads_annotationWith hindex.1 h.1 h.2.1 helements).bind_nil Reads.pure)
  | .array values, h => by
    refine (ensures_writeValues hq holder values h.2).bind fun body => Ensures.pure fun hbody => ?_
    refine ⟨?_, fun depth hdepth => ?_⟩
    · simp only [List.length_cons, List.length_append, length_count16, hbody.1, ValueSpec.size]
      omega
    · obtain ⟨depth, rfl⟩ := exists_depth hdepth
      rw [ValueSpec.size] at hdepth
      have hvalues := hbody.2 depth (by omega)
      exact Reads.u1_bind ((Reads.table h.1 hvalues).bind_nil Reads.pure)

/-- Elements are read back from their bytes. -/
theorem ensures_writeElements {q : PoolBuilder} (hq : q.Fits) (holder : String) :
    (elements : List (String × ValueSpec)) → ElementsFit elements →
      Ensures q (writeElements elements) fun bytes =>
        bytes.length = sizeOfElements elements ∧ ∀ depth, sizeOfElements elements ≤ depth →
          Reads bytes (Reader.times elements.length
            (readElement q.content (readElementValue q.content holder depth)))
            (contentOfElements elements)
  | [], _ => Ensures.pure ⟨rfl, fun _ _ => Reads.pure⟩
  | (name, value) :: rest, h => by
    refine (ensures_utf8 hq name).bind fun index =>
      (ensures_writeValue hq holder value h.1).bind fun v =>
      (ensures_writeElements hq holder rest h.2).bind fun others =>
      Ensures.pure fun hothers hv hindex => ?_
    refine ⟨?_, fun depth hdepth => ?_⟩
    · rw [List.length_append, List.length_append, length_word16, hv.1, hothers.1, sizeOfElements]
      omega
    · rw [sizeOfElements] at hdepth
      have hfirst := hv.2 depth (by omega)
      have hrest := hothers.2 depth (by omega)
      rw [← List.append_assoc]
      refine Reads.bind (Reads.index_bind hindex.1 (hfirst.bind_nil Reads.pure)) ?_
      exact hrest.bind_nil Reads.pure

/-- Values are read back from their bytes. -/
theorem ensures_writeValues {q : PoolBuilder} (hq : q.Fits) (holder : String) :
    (values : List ValueSpec) → ValuesFit values →
      Ensures q (writeValues values) fun bytes =>
        bytes.length = sizeOfValues values ∧ ∀ depth, sizeOfValues values ≤ depth →
          Reads bytes (Reader.times values.length (readElementValue q.content holder depth))
            (contentOfValues values)
  | [], _ => Ensures.pure ⟨rfl, fun _ _ => Reads.pure⟩
  | value :: rest, h => by
    refine (ensures_writeValue hq holder value h.1).bind fun v =>
      (ensures_writeValues hq holder rest h.2).bind fun others => Ensures.pure fun hothers hv => ?_
    refine ⟨?_, fun depth hdepth => ?_⟩
    · rw [List.length_append, hv.1, hothers.1, sizeOfValues]
    · rw [sizeOfValues] at hdepth
      have hfirst := hv.2 depth (by omega)
      have hrest := hothers.2 depth (by omega)
      exact hfirst.bind (hrest.bind_nil Reads.pure)

end

/-! ## Annotations -/

/-- An annotation is read back from its bytes. -/
theorem ensures_writeAnnotationTree {q : PoolBuilder} (hq : q.Fits) {a : AnnotationSpec}
    (h : a.Fits) : Ensures q (writeAnnotationTree a) fun bytes =>
      Reads bytes (readAnnotationTree q.content holder) a.content ∧ bytes.length = a.size := by
  refine (ensures_utf8 hq (descriptorOf a.type)).bind fun index =>
    (ensures_writeElements hq holder a.elements h.elements).bind fun body =>
    Ensures.pure fun hbody hindex => ?_
  have hlength : (word16 index ++ (count16 a.elements.length ++ body)).length = a.size := by
    rw [List.length_append, List.length_append, length_word16, length_count16, hbody.1,
      AnnotationSpec.size]
    omega
  refine ⟨?_, hlength⟩
  -- the bytes at hand bound the depth, and they include those of the annotation
  intro offset rest
  have hdepth : sizeOfElements a.elements ≤
      (word16 index ++ (count16 a.elements.length ++ body) ++ rest).length + 1 := by
    rw [List.length_append, hlength, AnnotationSpec.size]
    omega
  exact reads_annotationWith hindex.1 h.type h.count (hbody.2 _ hdepth) offset rest

/-- The attribute for annotations is read back as a table of them. -/
theorem attributes_annotations {α : Type} {q : PoolBuilder} (hq : q.Fits)
    {recognise : String → Option (Reader α)} {name : String}
    {f : List (AnnotationTree String) → α} {annotations : List AnnotationSpec}
    (hname : recognise name = some (f <$> ClassFile.readAnnotations q.content name))
    (h : AnnotationsFit annotations) :
    Attributes q recognise (tableAttribute name writeAnnotationTree annotations)
      (listed annotations (f (annotations.map AnnotationSpec.content))) :=
  Attributes.table hq hname h.count h.size fun a ha => ensures_writeAnnotationTree hq (h.each a ha)

end TypeAtlas.Assembly
