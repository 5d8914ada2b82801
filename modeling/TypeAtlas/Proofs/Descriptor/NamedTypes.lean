import Mathlib.Logic.Function.Iterate
import TypeAtlas.Proofs.Descriptor.PlainTypes

/-!
# Type names and descriptors

A type name has its array dimensions at the end and separates packages by dots; a descriptor has the
dimensions in front and separates packages by slashes. A primitive word other than `void` or the
name of a class (`IsElementName`) names a type with any number of dimensions
(`exists_nameable_of_isElementName`), and the descriptor of a type's name is the descriptor of the
type, as long as its class has an internal name (`descriptorOf_typeName`). So the two forms are read
back from each other (`names_and_descriptors_inverse`).
-/

set_option autoImplicit false

namespace TypeAtlas

open Assembly (IsClassName)

/-! ## Exchanging separators -/

namespace Text

section Exchange

variable {old new c d : Char} {name : String}

/-- Only the two characters of an exchange are affected by it. -/
theorem exchanged_eq_iff (hold : d ≠ old) (hnew : d ≠ new) :
    (if c = old then new else c) = d ↔ c = d := by
  by_cases hc : c = old
  · rw [if_pos hc, hc]
    exact ⟨fun h => absurd h.symm hnew, fun h => absurd h.symm hold⟩
  · rw [if_neg hc]

theorem mem_replaceChar_iff (hold : d ≠ old) (hnew : d ≠ new) :
    d ∈ (replaceChar old new name).toList ↔ d ∈ name.toList := by
  rw [Assembly.toList_replaceChar, List.mem_map]
  simp only [exchanged_eq_iff hold hnew, exists_eq_right]

theorem notMem_replaceChar (h : new ≠ old) : old ∉ (replaceChar old new name).toList := by
  rw [Assembly.toList_replaceChar, List.mem_map]
  rintro ⟨c, -, hc⟩
  split at hc
  · exact h hc
  · rename_i hne
    exact hne hc

theorem head?_replaceChar_iff (hold : d ≠ old) (hnew : d ≠ new) :
    (replaceChar old new name).toList.head? = some d ↔ name.toList.head? = some d := by
  rw [Assembly.toList_replaceChar, List.head?_map, Option.map_eq_some_iff]
  simp only [exchanged_eq_iff hold hnew, exists_eq_right]

/-- An exchange of other characters neither makes nor removes a final dimension. -/
theorem dimension_suffix_replaceChar_iff (hold : old ∉ ['[', ']']) (hnew : new ∉ ['[', ']']) :
    ['[', ']'] <:+ (replaceChar old new name).toList ↔ ['[', ']'] <:+ name.toList := by
  have hopen : ∀ c, (if c = old then new else c) = '[' ↔ c = '[' := fun c =>
    exchanged_eq_iff (fun h => hold (h ▸ by decide)) (fun h => hnew (h ▸ by decide))
  have hclose : ∀ c, (if c = old then new else c) = ']' ↔ c = ']' := fun c =>
    exchanged_eq_iff (fun h => hold (h ▸ by decide)) (fun h => hnew (h ▸ by decide))
  rw [Assembly.toList_replaceChar]
  constructor
  · rintro ⟨front, hfront⟩
    obtain ⟨l₁, l₂, hsplit, -, hlast⟩ := List.map_eq_append_iff.1 hfront.symm
    obtain ⟨a, rest, rfl, ha, hrest⟩ := List.map_eq_cons_iff.1 hlast
    obtain ⟨b, rest, rfl, hb, hnil⟩ := List.map_eq_cons_iff.1 hrest
    rw [List.map_eq_nil_iff] at hnil
    rw [(hopen a).1 ha, (hclose b).1 hb, hnil] at hsplit
    exact ⟨l₁, hsplit.symm⟩
  · rintro ⟨front, hfront⟩
    refine ⟨front.map fun c => if c = old then new else c, ?_⟩
    rw [← hfront, List.map_append, List.map_cons, List.map_cons, List.map_nil,
      (hopen '[').2 rfl, (hclose ']').2 rfl]

end Exchange

end Text

/-! ## Names of classes -/

/-- An internal name of a class that source form does not confuse with another type. -/
structure IsInternalName (name : String) : Prop where
  nonempty : name ≠ ""
  dot : '.' ∉ name.toList
  semicolon : ';' ∉ name.toList
  word : name ∉ Text.primitiveWords
  descriptor : name.toList.head? ≠ some '['
  array : ¬ ['[', ']'] <:+ name.toList

theorem replaceChar_ne_empty {old new : Char} {name : String} (h : name ≠ "") :
    Text.replaceChar old new name ≠ "" := by
  intro hempty
  rw [← String.toList_eq_nil_iff, Assembly.toList_replaceChar, List.map_eq_nil_iff] at hempty
  exact h (String.toList_eq_nil_iff.1 hempty)

theorem binaryName_internalName {name : String} (h : IsClassName name) :
    Text.binaryName (Text.internalName name) = name := by
  rw [Assembly.internalName_of_plain h.descriptor, Assembly.binaryName_replaceChar,
    Assembly.binaryName_of_plain h.slash]

/-- The name of a class has an internal form. -/
theorem isInternalName_internalName {name : String} (h : IsClassName name) :
    IsInternalName (Text.internalName name) := by
  have hword : Text.internalName name ∉ Text.primitiveWords := by
    intro hword
    -- the binary form of a word is the word itself
    have hslash : ∀ word ∈ Text.primitiveWords, '/' ∉ word.toList := by decide
    have hsame := Assembly.binaryName_of_plain (hslash _ hword)
    rw [binaryName_internalName h] at hsame
    exact h.word (hsame ▸ hword)
  rw [Assembly.internalName_of_plain h.descriptor] at hword ⊢
  exact
    { nonempty := replaceChar_ne_empty h.nonempty
      dot := Text.notMem_replaceChar (by decide)
      semicolon := fun hmem =>
        h.semicolon ((Text.mem_replaceChar_iff (by decide) (by decide)).1 hmem)
      word := hword
      descriptor := fun hhead =>
        h.descriptor ((Text.head?_replaceChar_iff (by decide) (by decide)).1 hhead)
      array := fun hsuffix =>
        h.array ((Text.dimension_suffix_replaceChar_iff (by decide) (by decide)).1 hsuffix) }

/-- The binary form of an internal name is the name of a class. -/
theorem isClassName_binaryName {name : String} (h : IsInternalName name) :
    IsClassName (Text.binaryName name) where
  nonempty := replaceChar_ne_empty h.nonempty
  slash := Text.notMem_replaceChar (by decide)
  semicolon := fun hmem =>
    h.semicolon ((Text.mem_replaceChar_iff (by decide) (by decide)).1 hmem)
  word := fun hword => h.word (Text.mem_primitiveWords_of_binaryName h.dot hword)
  descriptor := fun hhead =>
    h.descriptor ((Text.head?_replaceChar_iff (by decide) (by decide)).1 hhead)
  array := fun hsuffix =>
    h.array ((Text.dimension_suffix_replaceChar_iff (by decide) (by decide)).1 hsuffix)

theorem internalName_binaryName {name : String} (h : IsInternalName name) :
    Text.internalName (Text.binaryName name) = name := by
  rw [Assembly.internalName_of_plain (isClassName_binaryName h).descriptor,
    Text.replaceChar_binaryName h.dot]

/-! ## Types -/

/-- The class of a type has an internal name. -/
def FieldType.Nameable : FieldType → Prop
  | .base _ => True
  | .object name => IsInternalName name
  | .array component => component.Nameable

/-- A primitive word other than `void`, or the name of a class. -/
def IsElementName (name : String) : Prop :=
  (name ∈ Text.primitiveWords ∧ name ≠ "void") ∨ IsClassName name

theorem FieldType.Nameable.spellable {type : FieldType} (h : type.Nameable) : type.Spellable := by
  induction type with
  | base type => trivial
  | object name => exact ⟨fun hnil => h.nonempty (String.toList_eq_nil_iff.1 hnil), h.semicolon⟩
  | array component ih => exact ih h

theorem BaseType.exists_of_word {name : String} (h : name ∈ Text.primitiveWords)
    (hvoid : name ≠ "void") : ∃ type : BaseType, type.typeName = name := by
  simp only [Text.primitiveWords, List.mem_cons, List.not_mem_nil, or_false] at h
  rcases h with rfl | rfl | rfl | rfl | rfl | rfl | rfl | rfl | rfl
  exacts [⟨.boolean, rfl⟩, ⟨.byte, rfl⟩, ⟨.char, rfl⟩, ⟨.short, rfl⟩, ⟨.int, rfl⟩, ⟨.long, rfl⟩,
    ⟨.float, rfl⟩, ⟨.double, rfl⟩, absurd rfl hvoid]

/-- An element's name with any number of dimensions names a type. -/
theorem exists_nameable_of_isElementName {base : String} (h : IsElementName base)
    (dimensions : Nat) :
    ∃ type : FieldType, type.Nameable ∧ type.typeName = Text.arrayOf^[dimensions] base := by
  induction dimensions with
  | zero =>
    rcases h with ⟨hword, hvoid⟩ | hclass
    · obtain ⟨type, htype⟩ := BaseType.exists_of_word hword hvoid
      exact ⟨.base type, trivial, htype⟩
    · exact ⟨.object (Text.internalName base), isInternalName_internalName hclass,
        binaryName_internalName hclass⟩
  | succ dimensions ih =>
    obtain ⟨component, hnameable, hname⟩ := ih
    refine ⟨.array component, hnameable, ?_⟩
    rw [Function.iterate_succ_apply', FieldType.typeName, hname]

/-! ## The descriptor of a name -/

theorem descriptorChars_arrayOf (name : String) :
    descriptorChars (Text.arrayOf name).toList = '[' :: descriptorChars name.toList := by
  rw [descriptorChars]
  split
  · rename_i component hcomponent
    rw [Text.stripDimension_arrayOf, Option.some.injEq] at hcomponent
    rw [hcomponent]
  · rename_i hnone
    rw [Text.stripDimension_arrayOf] at hnone
    cases hnone

/-- The descriptor of a type's name is the descriptor of the type. -/
theorem descriptorChars_typeName {type : FieldType} (h : type.Nameable) :
    descriptorChars type.typeName.toList = type.chars := by
  induction type with
  | base type => cases type <;> (rw [descriptorChars]; rfl)
  | object name =>
    rw [FieldType.typeName, Assembly.descriptorChars_of_class (isClassName_binaryName h),
      internalName_binaryName h, FieldType.chars]
  | array component ih => rw [FieldType.typeName, descriptorChars_arrayOf, ih h, FieldType.chars]

theorem descriptorOf_typeName {type : FieldType} (h : type.Nameable) :
    descriptorOf type.typeName = type.descriptor := by
  rw [descriptorOf, descriptorChars_typeName h, FieldType.descriptor]

theorem parse_descriptorOf_typeName {type : FieldType} (h : type.Nameable) :
    FieldType.parse (descriptorOf type.typeName) = .ok type :=
  FieldType.parse_eq_ok_iff.2 ⟨h.spellable, (descriptorOf_typeName h).symm⟩

/-- The descriptor of a type name is read as a type of that name, and the descriptor of the name of
a type is read as that type. -/
theorem names_and_descriptors_inverse :
    (∀ base dimensions, IsElementName base →
      ∃ type : FieldType, type.Nameable ∧
        FieldType.parse (descriptorOf (Text.arrayOf^[dimensions] base)) = .ok type ∧
        type.typeName = Text.arrayOf^[dimensions] base) ∧
    ∀ type : FieldType, type.Nameable →
      FieldType.parse (descriptorOf type.typeName) = .ok type := by
  refine ⟨fun base dimensions h => ?_, fun type h => parse_descriptorOf_typeName h⟩
  obtain ⟨type, hnameable, hname⟩ := exists_nameable_of_isElementName h dimensions
  exact ⟨type, hnameable, hname ▸ parse_descriptorOf_typeName hnameable, hname⟩

/-- Brackets inside a name and a primitive word for a package are no obstacle. -/
theorem names_and_descriptors_inverse_nested :
    IsElementName "int.a[$b" ∧
      (∃ type : FieldType, FieldType.parse (descriptorOf "int.a[$b[][]") = .ok type ∧
        type.typeName = "int.a[$b[][]") ∧
      (FieldType.array (.array (.object "int/a[$b"))).Nameable ∧
      FieldType.parse (descriptorOf (FieldType.array (.array (.object "int/a[$b"))).typeName) =
        .ok (.array (.array (.object "int/a[$b"))) := by
  have hbase : IsElementName "int.a[$b" :=
    Or.inr ⟨by decide, by decide, by decide, by decide, by decide, by decide⟩
  have htype : (FieldType.array (.array (.object "int/a[$b"))).Nameable :=
    ⟨by decide, by decide, by decide, by decide, by decide, by decide⟩
  obtain ⟨ofName, ofType⟩ := names_and_descriptors_inverse
  obtain ⟨type, -, hparse, hname⟩ := ofName "int.a[$b" 2 hbase
  exact ⟨hbase, ⟨type, hparse, hname⟩, htype, ofType _ htype⟩

end TypeAtlas
