import TypeAtlas.Proofs.Assembly.Content
import TypeAtlas.Proofs.Descriptor.Grammar

/-!
# What names and texts say about types

The name of a type in source form does not determine it: a class may be called `int`, or `a.b` like
the class `a/b`. Among types whose class names are free of dots, opening brackets and reserved words
it does (`ReturnType.eq_of_typeName_eq`). The parameters of a method are always determined by their
text, which stands between the parentheses of the descriptor (`parameterPart_eq_iff`).
-/

set_option autoImplicit false

namespace TypeAtlas

/-! ## Names in source form -/

namespace Text

/-- A name without dots is recovered from its binary form. -/
theorem replaceChar_binaryName {name : String} (h : '.' ∉ name.toList) :
    replaceChar '.' '/' (binaryName name) = name := by
  have hback : ∀ c ∈ name.toList,
      (if (if c = '/' then '.' else c) = '.' then '/' else if c = '/' then '.' else c) = c := by
    intro c hc
    have hdot : c ≠ '.' := ne_of_mem_of_not_mem hc h
    by_cases hslash : c = '/'
    · rw [if_pos hslash, if_pos rfl, hslash]
    · rw [if_neg hslash, if_neg hdot]
  rw [← String.toList_inj, Assembly.toList_replaceChar, binaryName, Assembly.toList_replaceChar,
    List.map_map]
  exact (List.map_congr_left hback).trans (List.map_id' _)

theorem bracket_not_mem_binaryName {name : String} (h : '[' ∉ name.toList) :
    '[' ∉ (binaryName name).toList := by
  rw [binaryName, Assembly.toList_replaceChar, List.mem_map]
  rintro ⟨c, hc, hbracket⟩
  split at hbracket
  · exact absurd hbracket (by decide)
  · exact h (hbracket ▸ hc)

theorem bracket_mem_arrayOf (name : String) : '[' ∈ (arrayOf name).toList := by
  rw [arrayOf, String.toList_append]
  exact List.mem_append_right _ (by decide)

theorem plain_of_mem_primitiveWords :
    ∀ word ∈ primitiveWords, '[' ∉ word.toList ∧ replaceChar '.' '/' word = word := by
  decide

/-- Only a word has a word for its binary form. -/
theorem mem_primitiveWords_of_binaryName {name : String} (hdot : '.' ∉ name.toList)
    (h : binaryName name ∈ primitiveWords) : name ∈ primitiveWords := by
  have hword := (plain_of_mem_primitiveWords _ h).2
  rw [replaceChar_binaryName hdot] at hword
  rwa [← hword] at h

end Text

/-- The name of a class has no character and no meaning that source form gives to other types. -/
def FieldType.Plain : FieldType → Prop
  | .base _ => True
  | .object name => '.' ∉ name.toList ∧ '[' ∉ name.toList ∧ name ∉ Text.primitiveWords
  | .array component => component.Plain

def ReturnType.Plain : ReturnType → Prop
  | .void => True
  | .value type => type.Plain

instance FieldType.decidablePlain : (type : FieldType) → Decidable type.Plain
  | .base _ => isTrue trivial
  | .object name => inferInstanceAs
    (Decidable ('.' ∉ name.toList ∧ '[' ∉ name.toList ∧ name ∉ Text.primitiveWords))
  | .array component => decidablePlain component

instance ReturnType.decidablePlain : (type : ReturnType) → Decidable type.Plain
  | .void => isTrue trivial
  | .value type => FieldType.decidablePlain type

theorem BaseType.typeName_mem (type : BaseType) : type.typeName ∈ Text.primitiveWords := by
  cases type <;> decide

theorem BaseType.eq_of_typeName_eq {type other : BaseType} (h : type.typeName = other.typeName) :
    type = other := by
  cases type <;> cases other <;> first | rfl | exact absurd h (by decide)

/-- Only arrays have brackets in their names. -/
theorem FieldType.exists_array_of_bracket {type : FieldType} (hplain : type.Plain)
    (h : '[' ∈ type.typeName.toList) : ∃ component, type = .array component := by
  cases type with
  | base type => exact absurd h (Text.plain_of_mem_primitiveWords _ type.typeName_mem).1
  | object name => exact absurd h (Text.bracket_not_mem_binaryName hplain.2.1)
  | array component => exact ⟨component, rfl⟩

/-- Only a base type has a word for its name. -/
theorem FieldType.exists_base_of_word {type : FieldType} (hplain : type.Plain)
    (h : type.typeName ∈ Text.primitiveWords) : ∃ base, type = .base base := by
  cases type with
  | base type => exact ⟨type, rfl⟩
  | object name => exact absurd (Text.mem_primitiveWords_of_binaryName hplain.1 h) hplain.2.2
  | array component =>
    exact absurd (Text.bracket_mem_arrayOf _) (Text.plain_of_mem_primitiveWords _ h).1

/-- Plain types are told apart by their names. -/
theorem FieldType.eq_of_typeName_eq {type other : FieldType} (htype : type.Plain)
    (hother : other.Plain) (h : type.typeName = other.typeName) : type = other := by
  induction type generalizing other with
  | base type =>
    obtain ⟨base, rfl⟩ := exists_base_of_word hother (h ▸ type.typeName_mem)
    rw [BaseType.eq_of_typeName_eq h]
  | object name =>
    cases other with
    | base other =>
      obtain ⟨base, hbase⟩ := exists_base_of_word htype (h ▸ other.typeName_mem)
      cases hbase
    | object other =>
      have hnames : Text.binaryName name = Text.binaryName other := h
      rw [← Text.replaceChar_binaryName htype.1, hnames, Text.replaceChar_binaryName hother.1]
    | array component =>
      obtain ⟨inner, harray⟩ := exists_array_of_bracket htype (h ▸ Text.bracket_mem_arrayOf _)
      cases harray
  | array component ih =>
    obtain ⟨inner, rfl⟩ := exists_array_of_bracket hother (h ▸ Text.bracket_mem_arrayOf _)
    have hinner : inner.Plain := hother
    rw [ih htype hinner ((String.append_left_inj _).1 h)]

theorem ReturnType.eq_of_typeName_eq {type other : ReturnType} (htype : type.Plain)
    (hother : other.Plain) (h : type.typeName = other.typeName) : type = other := by
  have hvoid : ∀ {value : FieldType}, value.Plain → "void" ≠ value.typeName := by
    intro value hplain hname
    obtain ⟨base, rfl⟩ := FieldType.exists_base_of_word hplain (hname ▸ by decide)
    cases base <;> exact absurd hname (by decide)
  cases type with
  | void =>
    cases other with
    | void => rfl
    | value other => exact absurd h (hvoid hother)
  | value type =>
    cases other with
    | void => exact absurd h.symm (hvoid htype)
    | value other => rw [FieldType.eq_of_typeName_eq htype hother h]

/-! ## The text of the parameters -/

/-- The text between the opening parenthesis of a descriptor and the one that ends the list of
parameters, if they can be read. -/
def parameterPart (descriptor : String) : Option String :=
  match descriptor.toList with
  | '(' :: text =>
    match MethodType.readParams ('(' :: text) text with
    | .ok (_, tail) => some (String.ofList (text.take (text.length - (tail.length + 1))))
    | .error _ => none
  | _ => none

theorem parameterPart_of_parse {descriptor : String} {type : MethodType}
    (h : MethodType.parse descriptor = .ok type) :
    parameterPart descriptor = some (String.ofList (type.params.flatMap FieldType.chars)) := by
  obtain ⟨hspellable, hchars⟩ := MethodType.ofChars_eq_ok_iff.1 h
  have hchars' : descriptor.toList =
      '(' :: (type.params.flatMap FieldType.chars ++ ')' :: type.result.chars) := hchars
  have hread : ∀ whole, MethodType.readParams whole
      (type.params.flatMap FieldType.chars ++ ')' :: type.result.chars) =
        .ok (type.params, type.result.chars) := fun whole =>
    MethodType.readParams_eq_ok_iff.2 ⟨hspellable.params, rfl⟩
  rw [parameterPart, hchars']
  simp only [hread, List.length_append, List.length_cons, Nat.add_sub_cancel, List.take_left]

/-- A text spells at most one list of parameters. -/
theorem FieldType.eq_of_flatMap_chars_eq {params others : List FieldType}
    (hparams : ∀ param ∈ params, param.Spellable) (hothers : ∀ param ∈ others, param.Spellable)
    (h : params.flatMap FieldType.chars = others.flatMap FieldType.chars) : params = others := by
  have hread : MethodType.readParams [] (params.flatMap FieldType.chars ++ [')']) =
      .ok (params, []) := MethodType.readParams_eq_ok_iff.2 ⟨hparams, rfl⟩
  have hother : MethodType.readParams [] (others.flatMap FieldType.chars ++ [')']) =
      .ok (others, []) := MethodType.readParams_eq_ok_iff.2 ⟨hothers, rfl⟩
  rw [h, hother] at hread
  cases hread
  rfl

/-- Lists of parameters are told apart by their texts. -/
theorem parameterPart_eq_iff {descriptor otherDescriptor : String} {type other : MethodType}
    (h : MethodType.parse descriptor = .ok type)
    (hother : MethodType.parse otherDescriptor = .ok other) :
    parameterPart descriptor = parameterPart otherDescriptor ↔ type.params = other.params := by
  rw [parameterPart_of_parse h, parameterPart_of_parse hother, Option.some_inj, String.ofList_inj]
  constructor
  · exact FieldType.eq_of_flatMap_chars_eq (MethodType.parse_eq_ok_iff.1 h).1.params
      (MethodType.parse_eq_ok_iff.1 hother).1.params
  · intro hparams
    rw [hparams]

end TypeAtlas
