import TypeAtlas.ClassFile.AttributeTable

/-!
# Faults that point nowhere

Only the reader of bytes knows where it stands in the file. A lookup in the constant pool, a type
descriptor or the scan of a code body fails without a place of its own (`Unplaced`), so the place
of such a fault has to come from the section around it.
-/

set_option autoImplicit false

namespace TypeAtlas

section Unplaced

variable {α β : Type}

/-- If a computation fails, its fault does not point at a place in the file. -/
def Unplaced (result : Except Fault α) : Prop :=
  ∀ fault, result = .error fault → fault.offset? = none

theorem Unplaced.ok (value : α) : Unplaced (.ok value) := by
  intro fault h
  cases h

theorem Unplaced.error {fault : Fault} (h : fault.offset? = none) :
    Unplaced (.error fault : Except Fault α) := by
  intro fault' h'
  cases h'
  exact h

theorem Unplaced.bind {result : Except Fault α} {f : α → Except Fault β} (h : Unplaced result)
    (hf : ∀ value, Unplaced (f value)) : Unplaced (result >>= f) := by
  cases result with
  | error fault => exact Unplaced.error (h fault rfl)
  | ok value => exact hf value

theorem Unplaced.map {result : Except Fault α} (h : Unplaced result) (f : α → β) :
    Unplaced (result.map f) := by
  cases result with
  | error fault => exact Unplaced.error (h fault rfl)
  | ok value => exact Unplaced.ok (f value)

end Unplaced

/-! ## Descriptors -/

theorem unplaced_malformedAt {α : Type} (text : List Char) :
    Unplaced (.error (malformedAt text) : Except Fault α) :=
  Unplaced.error rfl

theorem unplaced_readType (text : List Char) : Unplaced (FieldType.read text) := by
  fun_induction FieldType.read text with
  | case1 => exact unplaced_malformedAt []
  | case2 => exact Unplaced.ok _
  | case3 rest fault hrest ih => exact Unplaced.error (ih fault hrest)
  | case4 => exact Unplaced.ok _
  | case5 => exact unplaced_malformedAt _
  | case6 => exact Unplaced.ok _
  | case7 => exact unplaced_malformedAt _

theorem unplaced_typeOfChars (text : List Char) : Unplaced (FieldType.ofChars text) := by
  unfold FieldType.ofChars
  split
  · exact Unplaced.ok _
  · exact unplaced_malformedAt text
  · rename_i fault hread
    exact Unplaced.error (unplaced_readType text fault hread)

theorem unplaced_parseType (descriptor : String) : Unplaced (FieldType.parse descriptor) :=
  unplaced_typeOfChars descriptor.toList

theorem unplaced_readParams (whole text : List Char) :
    Unplaced (MethodType.readParams whole text) := by
  fun_induction MethodType.readParams whole text with
  | case1 => exact unplaced_malformedAt whole
  | case2 => exact Unplaced.ok _
  | case3 => exact Unplaced.ok _
  | case4 c rest _ type after _ _ fault hafter ih => exact Unplaced.error (ih fault hafter)
  | case5 c rest _ fault hread =>
    exact Unplaced.error (unplaced_readType (c :: rest) fault hread)

theorem unplaced_parseMethodType (descriptor : String) :
    Unplaced (MethodType.parse descriptor) := by
  unfold MethodType.parse MethodType.ofChars
  split
  · split
    · exact Unplaced.ok _
    · split
      · exact Unplaced.ok _
      · exact unplaced_malformedAt _
    · rename_i fault hparams
      exact Unplaced.error (unplaced_readParams _ _ fault hparams)
  · exact unplaced_malformedAt _

theorem unplaced_typeNameOfClassConstant (text : String) :
    Unplaced (typeNameOfClassConstant text) := by
  unfold typeNameOfClassConstant
  split
  · exact (unplaced_parseType text).map _
  · exact Unplaced.ok _

theorem unplaced_typeNameOfLiteral (descriptor : String) :
    Unplaced (typeNameOfLiteral descriptor) := by
  unfold typeNameOfLiteral
  split
  · exact Unplaced.ok _
  · exact (unplaced_parseType descriptor).map _

namespace ClassFile

/-! ## Lookups in the constant pool -/

section Pool

variable (pool : ConstantPool) (index : PoolIndex)

theorem unplaced_get : Unplaced (pool.get index) := by
  unfold ConstantPool.get
  split
  · exact Unplaced.ok _
  · exact Unplaced.error rfl

/-- A constant is looked up, and is used or of the wrong kind. -/
theorem unplaced_use {α : Type} {use : Constant → Except Fault α} (h : ∀ c, Unplaced (use c)) :
    Unplaced (pool.get index >>= use) :=
  (unplaced_get pool index).bind h

theorem unplaced_getUtf8 : Unplaced (pool.getUtf8 index) := by
  refine unplaced_use pool index fun c => ?_
  split
  · exact Unplaced.ok _
  · exact Unplaced.error rfl

theorem unplaced_getClassName : Unplaced (pool.getClassName index) := by
  refine unplaced_use pool index fun c => ?_
  split
  · exact unplaced_getUtf8 pool _
  · exact Unplaced.error rfl

theorem unplaced_getClassName? : Unplaced (pool.getClassName? index) := by
  unfold ConstantPool.getClassName?
  split
  · exact Unplaced.ok _
  · exact (unplaced_getClassName pool index).map some

theorem unplaced_getString : Unplaced (pool.getString index) := by
  refine unplaced_use pool index fun c => ?_
  split
  · exact unplaced_getUtf8 pool _
  · exact Unplaced.ok _
  · exact Unplaced.error rfl

theorem unplaced_getNameAndType : Unplaced (pool.getNameAndType index) := by
  refine unplaced_use pool index fun c => ?_
  split
  · refine (unplaced_getUtf8 pool _).bind fun _ => (unplaced_getUtf8 pool _).bind fun _ => ?_
    exact Unplaced.ok _
  · exact Unplaced.error rfl

theorem unplaced_getMemberRef : Unplaced (pool.getMemberRef index) := by
  have hlookUp : ∀ kind owner nameAndType,
      Unplaced (ConstantPool.getMemberRef.lookUp pool kind owner nameAndType) :=
    fun _ _ _ => (unplaced_getClassName pool _).bind fun _ =>
      (unplaced_getNameAndType pool _).bind fun _ => Unplaced.ok _
  refine unplaced_use pool index fun c => ?_
  split
  · exact hlookUp _ _ _
  · exact hlookUp _ _ _
  · exact hlookUp _ _ _
  · exact Unplaced.error rfl

theorem unplaced_getInteger : Unplaced (pool.getInteger index) := by
  refine unplaced_use pool index fun c => ?_
  split
  · exact Unplaced.ok _
  · exact Unplaced.error rfl

theorem unplaced_getLong : Unplaced (pool.getLong index) := by
  refine unplaced_use pool index fun c => ?_
  split
  · exact Unplaced.ok _
  · exact Unplaced.error rfl

theorem unplaced_getFloat : Unplaced (pool.getFloat index) := by
  refine unplaced_use pool index fun c => ?_
  split
  · exact Unplaced.ok _
  · exact Unplaced.error rfl

theorem unplaced_getDouble : Unplaced (pool.getDouble index) := by
  refine unplaced_use pool index fun c => ?_
  split
  · exact Unplaced.ok _
  · exact Unplaced.error rfl

end Pool

/-! ## Code and annotations -/

theorem unplaced_malformed {α : Type} (holder : String) :
    Unplaced (malformed holder : Except Fault α) :=
  Unplaced.error rfl

theorem unplaced_attributeClass (holder descriptor : String) :
    Unplaced (attributeClass holder descriptor) := by
  unfold attributeClass
  split
  · exact Unplaced.ok _
  · exact unplaced_malformed holder

theorem unplaced_malformedCode {α : Type} : Unplaced (malformedCode : Except Fault α) :=
  Unplaced.error rfl

theorem unplaced_signedWordAt (position : Nat) (bytes : Bytes) :
    Unplaced (signedWordAt position bytes) := by
  unfold signedWordAt
  split
  · exact Unplaced.ok _
  · exact unplaced_malformedCode

theorem unplaced_operandLength (pc : Nat) (opcode : UInt8) (operands : Bytes) :
    Unplaced (operandLength pc opcode operands) := by
  unfold operandLength
  split
  · exact Unplaced.ok _
  · refine (unplaced_signedWordAt _ _).bind fun low => ?_
    refine (unplaced_signedWordAt _ _).bind fun high => ?_
    split
    · exact unplaced_malformedCode
    · exact Unplaced.ok _
  · refine (unplaced_signedWordAt _ _).bind fun pairs => ?_
    split
    · exact unplaced_malformedCode
    · exact Unplaced.ok _
  · split
    · exact unplaced_malformedCode
    · exact Unplaced.ok _
  · exact Unplaced.error rfl

theorem unplaced_signatureTypes (kind : MemberRefKind) (descriptor : String) :
    Unplaced (signatureTypes kind descriptor) := by
  unfold signatureTypes
  split
  · exact (unplaced_parseType descriptor).map _
  · exact (unplaced_parseMethodType descriptor).map _

theorem unplaced_memberReference (pool : ConstantPool) (lines : List LineNumber) (pc : Nat)
    (kind : ReferenceKind) (index : PoolIndex) :
    Unplaced (memberReference pool lines pc kind index) := by
  refine (unplaced_getMemberRef pool index).bind fun target => ?_
  split
  · exact unplaced_malformedCode
  · refine (unplaced_signatureTypes _ _).bind fun types => ?_
    exact (unplaced_typeNameOfClassConstant _).bind fun owner => Unplaced.ok _

theorem unplaced_referenceAt (pool : ConstantPool) (lines : List LineNumber) (pc : Nat)
    (opcode : UInt8) (operands : Bytes) :
    Unplaced (referenceAt pool lines pc opcode operands) := by
  unfold referenceAt
  split
  · exact (unplaced_memberReference pool lines pc _ _).map some
  · exact Unplaced.ok _

theorem unplaced_scanFrom (pool : ConstantPool) (lines : List LineNumber) (pc : Nat)
    (code : Bytes) : Unplaced (scanFrom pool lines pc code) := by
  fun_induction scanFrom pool lines pc code with
  | case1 pc => exact Unplaced.ok _
  | case2 pc opcode following ih =>
    refine (unplaced_operandLength pc opcode following).bind fun length => ?_
    split
    · exact unplaced_malformedCode
    · rename_i operands rest hsplit
      refine (unplaced_referenceAt pool lines pc opcode operands).bind fun here => ?_
      exact (ih length operands rest hsplit).bind fun others => Unplaced.ok _

end ClassFile

end TypeAtlas
