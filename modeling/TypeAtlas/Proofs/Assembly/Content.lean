import TypeAtlas.Assembly.Assemble
import TypeAtlas.Proofs.Descriptor.Grammar

/-!
# What a description says

`ClassSpec.content` is the class that a description asks for, written down without a byte of a class
file: names in the form in which they are read, types as their descriptors spell them, and for each
access made by code the place of its instruction and the source line last marked before it. The
module ends with the two facts about names that make this the class that is read back.
-/

set_option autoImplicit false

namespace TypeAtlas.Assembly

open ClassFile (Code EnclosingMethod InnerClass LineNumber MemberRefKind MemberReference
  ReferenceKind)

/-- The value of a computation, or another one where it fails. -/
def valueOr {α : Type} (other : α) : Except Fault α → α
  | .ok value => value
  | .error _ => other

/-! ## Annotations -/

mutual

/-- The value that is asked for. -/
def ValueSpec.content : ValueSpec → ElementValue String
  | .const value => .const value
  | .enumConst type name => .enumConst type name
  | .classLiteral descriptor => .classLiteral (valueOr descriptor (typeNameOfLiteral descriptor))
  | .nested type elements => .nested (descriptorOf type) type (contentOfElements elements)
  | .array values => .array (contentOfValues values)

/-- The named values that are asked for. -/
def contentOfElements : List (String × ValueSpec) → List (String × ElementValue String)
  | [] => []
  | (name, value) :: rest => (name, value.content) :: contentOfElements rest

/-- The list of values that is asked for. -/
def contentOfValues : List ValueSpec → List (ElementValue String)
  | [] => []
  | value :: rest => value.content :: contentOfValues rest

end

/-- The annotation that is asked for. -/
def AnnotationSpec.content (a : AnnotationSpec) : AnnotationTree String :=
  ⟨descriptorOf a.type, a.type, contentOfElements a.elements⟩

/-! ## Code -/

/-- An access to a member: the instruction, the sort of its reference constant, and the member. -/
structure Access where
  kind : ReferenceKind
  sort : MemberRefKind
  target : Target

/-- The reference that an access at `pc` makes, in a source line. -/
def Access.reference (a : Access) (pc : Nat) (line : UInt16) : MemberReference :=
  let types := valueOr ([], "") (ClassFile.signatureTypes a.sort a.target.descriptor)
  { kind := a.kind
    owner := valueOr a.target.owner (typeNameOfClassConstant a.target.owner)
    ownerIsInterface := a.sort == .interfaceMethod
    name := a.target.name
    descriptor := a.target.descriptor
    parameterTypes := types.1
    valueType := types.2
    pc
    line }

namespace Instruction

/-- The access that an instruction is, if it is one. -/
def access? : Instruction → Option Access
  | .getField target => some ⟨.getField, .field, target⟩
  | .putField target => some ⟨.putField, .field, target⟩
  | .getStatic target => some ⟨.getStatic, .field, target⟩
  | .putStatic target => some ⟨.putStatic, .field, target⟩
  | .invokeVirtual target => some ⟨.invokeVirtual, .method, target⟩
  | .invokeSpecial target => some ⟨.invokeSpecial, .method, target⟩
  | .invokeStatic target => some ⟨.invokeStatic, .method, target⟩
  | .invokeStaticInterface target => some ⟨.invokeStatic, .interfaceMethod, target⟩
  | .invokeInterface target => some ⟨.invokeInterface, .interfaceMethod, target⟩
  | _ => none

/-- The number of bytes of an instruction at `pc`. -/
def size (pc : Nat) : Instruction → Nat
  | .line _ => 0
  | .invokeInterface _ => 5
  | .tableSwitch low high =>
    ClassFile.switchPadding pc + 13 + (high.toInt - low.toInt + 1).toNat * 4
  | .lookupSwitch pairs => ClassFile.switchPadding pc + 9 + pairs.toNat * 8
  | .raw bytes => bytes.length
  | .return => 1
  | _ => 3

/-- The source line after an instruction, given the one before it. -/
def lineAfter (line : UInt16) : Instruction → UInt16
  | .line number => number
  | _ => line

end Instruction

/-- The number of bytes of the instructions from `pc` on. -/
def sizeFrom : Nat → List Instruction → Nat
  | _, [] => 0
  | pc, first :: rest => first.size pc + sizeFrom (pc + first.size pc) rest

/-- The line table of the instructions from `pc` on. -/
def linesFrom : Nat → List Instruction → List LineNumber
  | _, [] => []
  | pc, first :: rest => first.lineEntry pc ++ linesFrom (pc + first.size pc) rest

/-- The references of the instructions from `pc` on, which is in the given source line. -/
def referencesFrom : Nat → UInt16 → List Instruction → List MemberReference
  | _, _, [] => []
  | pc, line, first :: rest =>
    (first.access?.map fun access => access.reference pc line).toList ++
      referencesFrom (pc + first.size pc) (first.lineAfter line) rest

/-- The code body that is asked for. No line is known before the first mark. -/
def codeContent (instructions : List Instruction) : Code :=
  ⟨8, 8, linesFrom 0 instructions, referencesFrom 0 0 instructions⟩

/-! ## Members and classes -/

/-- The field that is asked for. -/
def FieldSpec.content (f : FieldSpec) : Member FieldType where
  flags := f.flags
  name := f.name
  descriptor := f.descriptor
  type := valueOr (.object f.descriptor) (FieldType.parse f.descriptor)
  signature := f.signature
  visible := f.annotations.map AnnotationSpec.content
  invisible := []
  exceptions := []
  code := none

/-- The method that is asked for. -/
def MethodSpec.content (m : MethodSpec) : Member MethodType where
  flags := m.flags
  name := m.name
  descriptor := m.descriptor
  type := valueOr ⟨[], .void⟩ (MethodType.parse m.descriptor)
  signature := m.signature
  visible := m.annotations.map AnnotationSpec.content
  invisible := []
  exceptions := m.throws.map Text.internalName
  code := m.code.map codeContent

/-- The inner-class entry that is asked for. -/
def InnerSpec.content (entry : InnerSpec) : InnerClass :=
  ⟨entry.inner, entry.outer, entry.innerName, entry.flags⟩

/-- The place of declaration that is asked for. -/
def EnclosingSpec.content (place : EnclosingSpec) : EnclosingMethod := ⟨place.owner, place.method⟩

/-- The class that is asked for. Further attributes say nothing. -/
def ClassSpec.content (c : ClassSpec) : ClassFile where
  minorVersion := 0
  majorVersion := c.majorVersion
  flags := c.flags
  thisClass := c.name
  superClass := c.superClass
  interfaces := c.interfaces
  fields := c.fields.map FieldSpec.content
  methods := c.methods.map MethodSpec.content
  signature := c.signature
  sourceFile := c.sourceFile
  visible := c.visible.map AnnotationSpec.content
  invisible := c.invisible.map AnnotationSpec.content
  innerClasses := c.innerClasses.map InnerSpec.content
  enclosingMethod := c.enclosingMethod.map EnclosingSpec.content

/-! ## Names -/

/-- A name of a class type, neither a primitive word nor a name or a descriptor of an array. -/
structure IsClassName (name : String) : Prop where
  nonempty : name ≠ ""
  slash : '/' ∉ name.toList
  semicolon : ';' ∉ name.toList
  word : name ∉ Text.primitiveWords
  descriptor : name.toList.head? ≠ some '['
  array : ¬ ['[', ']'] <:+ name.toList

theorem toList_replaceChar (old new : Char) (text : String) :
    (Text.replaceChar old new text).toList =
      text.toList.map fun c => if c = old then new else c := by
  rw [Text.replaceChar, String.toList_ofList]

theorem internalName_of_plain {name : String} (h : name.toList.head? ≠ some '[') :
    Text.internalName name = Text.replaceChar '.' '/' name := by
  unfold Text.internalName
  split
  · rename_i rest hname
    rw [hname] at h
    exact absurd rfl h
  · rfl

/-- The slashes of an internal name stand for dots, whichever of the two were there before. -/
theorem binaryName_replaceChar (name : String) :
    Text.binaryName (Text.replaceChar '.' '/' name) = Text.binaryName name := by
  unfold Text.binaryName
  rw [Text.replaceChar, toList_replaceChar, List.map_map, Text.replaceChar]
  congr 1
  apply List.map_congr_left
  intro c _
  show (if (if c = '.' then '/' else c) = '/' then '.' else (if c = '.' then '/' else c)) =
    if c = '/' then '.' else c
  by_cases hdot : c = '.'
  · subst hdot
    decide
  · rw [if_neg hdot]

theorem binaryName_of_plain {name : String} (h : '/' ∉ name.toList) :
    Text.binaryName name = name := by
  have hmap : (name.toList.map fun c => if c = '/' then '.' else c) = name.toList := by
    rw [List.map_congr_left fun c hc => if_neg (ne_of_mem_of_not_mem hc h), List.map_id']
  rw [Text.binaryName, Text.replaceChar, hmap, String.ofList_toList]

/-- A class constant names the same type whether the name in it was given with dots or slashes. -/
theorem typeNameOfClassConstant_internalName (owner : String) :
    typeNameOfClassConstant (Text.internalName owner) = typeNameOfClassConstant owner := by
  by_cases h : owner.toList.head? = some '['
  · unfold Text.internalName
    split
    · rfl
    · rename_i hother
      obtain ⟨rest, hrest⟩ := List.head?_eq_some_iff.1 h
      exact absurd hrest (hother rest)
  · have hother : ∀ text : String, text.toList.head? ≠ some '[' →
        typeNameOfClassConstant text = .ok (Text.binaryName text) := by
      intro text htext
      unfold typeNameOfClassConstant
      split
      · rename_i rest hname
        rw [hname] at htext
        exact absurd rfl htext
      · rfl
    -- exchanging dots for slashes makes no array of another owner
    have hslashed : (Text.replaceChar '.' '/' owner).toList.head? ≠ some '[' := by
      rw [toList_replaceChar, List.head?_map]
      cases hhead : owner.toList.head? with
      | none => exact Option.some_ne_none _ ∘ Eq.symm
      | some c =>
        rw [hhead] at h
        show some (if c = '.' then '/' else c) ≠ some '['
        split
        · decide
        · exact h
    rw [internalName_of_plain h, hother _ hslashed, hother _ h, binaryName_replaceChar]

/-- A class type is read back from its descriptor. -/
theorem parse_object {chars : List Char} (hne : chars ≠ []) (h : ';' ∉ chars) :
    FieldType.parse (String.ofList ('L' :: chars ++ [';'])) =
      .ok (.object (String.ofList chars)) := by
  refine FieldType.parse_eq_ok_iff.2 ⟨FieldType.spellable_object.2 ⟨hne, h⟩, ?_⟩
  rw [FieldType.descriptor, FieldType.chars_object]

theorem stripDimension_eq_none {text : List Char} (h : ¬ ['[', ']'] <:+ text) :
    Text.stripDimension text = none := by
  unfold Text.stripDimension
  split
  · rename_i component hreverse
    refine absurd ⟨component.reverse, ?_⟩ h
    rw [← List.reverse_reverse text, hreverse]
    simp only [List.reverse_cons, List.append_assoc, List.cons_append, List.nil_append]
  · rfl

theorem elementDescriptor_of_class {name : String} (h : name ∉ Text.primitiveWords) :
    elementDescriptor name = 'L' :: (Text.internalName name).toList ++ [';'] := by
  unfold elementDescriptor
  split
  all_goals first | rfl | exact absurd (by decide) h

theorem descriptorChars_of_class {name : String} (h : IsClassName name) :
    descriptorChars name.toList = 'L' :: (Text.internalName name).toList ++ [';'] := by
  rw [descriptorChars]
  split
  · rename_i component hcomponent
    rw [stripDimension_eq_none h.array] at hcomponent
    cases hcomponent
  · rw [String.ofList_toList, elementDescriptor_of_class h.word]

/-- The name of a class type is read back from its descriptor. -/
theorem classNameOfDescriptor_descriptorOf {name : String} (h : IsClassName name) :
    classNameOfDescriptor (descriptorOf name) = some name := by
  have hparse : FieldType.parse (descriptorOf name) =
      .ok (.object (Text.internalName name)) := by
    rw [descriptorOf, descriptorChars_of_class h, parse_object, String.ofList_toList]
    · intro hnil
      rw [internalName_of_plain h.descriptor, toList_replaceChar, List.map_eq_nil_iff] at hnil
      exact h.nonempty (String.toList_eq_nil_iff.1 hnil)
    · intro hmem
      rw [internalName_of_plain h.descriptor, toList_replaceChar] at hmem
      obtain ⟨c, hc, heq⟩ := List.mem_map.1 hmem
      split at heq
      · exact absurd heq (by decide)
      · exact h.semicolon (heq ▸ hc)
  rw [classNameOfDescriptor, hparse]
  show some (Text.binaryName (Text.internalName name)) = some name
  rw [internalName_of_plain h.descriptor, binaryName_replaceChar,
    binaryName_of_plain h.slash]

end TypeAtlas.Assembly
