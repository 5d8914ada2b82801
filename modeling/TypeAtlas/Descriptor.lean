import TypeAtlas.Fault
import TypeAtlas.Text.Name

/-!
# Type descriptors

A descriptor spells the type of a field or the parameter and result types of a method:
`I`, `[Ljava/lang/String;`, `(IJ)V`. This module holds the types, their two printed forms (the
descriptor and the name in source form) and the reader.

The reader works on characters and returns what it leaves unread. A fault carries the text from
the place where reading stopped making sense, except that leftovers and a bad result type are
blamed on the whole descriptor.
-/

set_option autoImplicit false

namespace TypeAtlas

/-- The primitive types. -/
inductive BaseType where
  | byte | char | double | float | int | long | short | boolean
  deriving DecidableEq, Repr

/-- A type of a field or parameter. Class types keep their internal name. -/
inductive FieldType where
  | base (type : BaseType)
  | object (internalName : String)
  | array (component : FieldType)
  deriving DecidableEq, Repr

/-- The result of a method: nothing, or a value. -/
inductive ReturnType where
  | void
  | value (type : FieldType)
  deriving DecidableEq, Repr

/-- The parameter types and the result of a method. -/
structure MethodType where
  params : List FieldType
  result : ReturnType
  deriving DecidableEq, Repr

/-! ## Names in source form -/

/-- The word for a primitive type. -/
def BaseType.typeName : BaseType → String
  | .byte => "byte"
  | .char => "char"
  | .double => "double"
  | .float => "float"
  | .int => "int"
  | .long => "long"
  | .short => "short"
  | .boolean => "boolean"

/-- The name of a type in source form: `int`, `java.lang.String`, `long[][]`. -/
def FieldType.typeName : FieldType → String
  | .base type => type.typeName
  | .object internalName => Text.binaryName internalName
  | .array component => Text.arrayOf component.typeName

/-- The innermost type that is no array. -/
def FieldType.element : FieldType → FieldType
  | .array component => component.element
  | type => type

/-- The number of array dimensions around the innermost type. -/
def FieldType.dimensions : FieldType → Nat
  | .array component => component.dimensions + 1
  | _ => 0

/-- The name of a result in source form. -/
def ReturnType.typeName : ReturnType → String
  | .void => "void"
  | .value type => type.typeName

/-! ## Printed descriptors -/

/-- The letter of a primitive type. -/
def BaseType.letter : BaseType → Char
  | .byte => 'B'
  | .char => 'C'
  | .double => 'D'
  | .float => 'F'
  | .int => 'I'
  | .long => 'J'
  | .short => 'S'
  | .boolean => 'Z'

/-- The primitive type that a letter stands for. -/
def BaseType.ofLetter? : Char → Option BaseType
  | 'B' => some .byte
  | 'C' => some .char
  | 'D' => some .double
  | 'F' => some .float
  | 'I' => some .int
  | 'J' => some .long
  | 'S' => some .short
  | 'Z' => some .boolean
  | _ => none

/-- The descriptor of a type, as characters. -/
def FieldType.chars : FieldType → List Char
  | .base type => [type.letter]
  | .object internalName => 'L' :: internalName.toList ++ [';']
  | .array component => '[' :: component.chars

/-- The descriptor of a result, as characters. -/
def ReturnType.chars : ReturnType → List Char
  | .void => ['V']
  | .value type => type.chars

/-- The descriptor of a method, as characters. -/
def MethodType.chars (type : MethodType) : List Char :=
  '(' :: type.params.flatMap FieldType.chars ++ ')' :: type.result.chars

/-- The descriptor of a type. -/
def FieldType.descriptor (type : FieldType) : String := String.ofList type.chars

/-- The descriptor of a method. -/
def MethodType.descriptor (type : MethodType) : String := String.ofList type.chars

/-! ## Reading -/

/-- The fault of a descriptor that stops making sense at this text. -/
def malformedAt (text : List Char) : Fault := .malformedDescriptor (String.ofList text)

/-- Reads one type off the front of a text and returns what follows it. -/
def FieldType.read : List Char → Except Fault (FieldType × List Char)
  | [] => .error (malformedAt [])
  | '[' :: rest =>
    match FieldType.read rest with
    | .ok (component, after) => .ok (.array component, after)
    | .error fault => .error fault
  | 'L' :: rest =>
    match rest.takeWhile (· ≠ ';'), rest.dropWhile (· ≠ ';') with
    | c :: name, _ :: after => .ok (.object (String.ofList (c :: name)), after)
    | _, _ => .error (malformedAt ('L' :: rest))
  | c :: rest =>
    match BaseType.ofLetter? c with
    | some type => .ok (.base type, rest)
    | none => .error (malformedAt (c :: rest))

theorem length_dropWhile_le {α : Type} (p : α → Bool) (l : List α) :
    (l.dropWhile p).length ≤ l.length := by
  induction l with
  | nil => simp
  | cons a l ih => rw [List.dropWhile_cons]; split <;> simp; omega

/-- Reading a type uses up at least one character. -/
theorem FieldType.length_read {text rest : List Char} {type : FieldType}
    (h : FieldType.read text = .ok (type, rest)) : rest.length < text.length := by
  induction text generalizing type rest with
  | nil => simp [FieldType.read] at h
  | cons c text ih =>
    unfold FieldType.read at h
    split at h
    · simp at *
    · rename_i tail heq
      obtain ⟨rfl, rfl⟩ := List.cons.inj heq
      split at h
      · rename_i component after hread
        have := ih hread
        simp at h
        obtain ⟨-, rfl⟩ := h
        simp
        omega
      · simp at h
    · rename_i tail heq
      obtain ⟨rfl, rfl⟩ := List.cons.inj heq
      split at h
      · rename_i d name e after hname hafter
        simp at h
        obtain ⟨-, rfl⟩ := h
        have := length_dropWhile_le (· ≠ ';') text
        rw [hafter] at this
        simp at this ⊢
        omega
      · simp at h
    · rename_i heq
      obtain ⟨rfl, rfl⟩ := List.cons.inj heq
      split at h
      · simp at h
        obtain ⟨-, rfl⟩ := h
        simp
      · simp at h

/-- A text that is one type and nothing else. -/
def FieldType.ofChars (text : List Char) : Except Fault FieldType :=
  match FieldType.read text with
  | .ok (type, []) => .ok type
  | .ok (_, _ :: _) => .error (malformedAt text)
  | .error fault => .error fault

/-- Reads types up to the closing parenthesis and returns what follows it; `whole` is blamed when
the text ends first. -/
def MethodType.readParams (whole text : List Char) :
    Except Fault (List FieldType × List Char) :=
  match text with
  | [] => .error (malformedAt whole)
  | c :: rest =>
    if c = ')' then .ok ([], rest)
    else
      match h : FieldType.read (c :: rest) with
      | .ok (type, after) =>
        have := FieldType.length_read h
        match MethodType.readParams whole after with
        | .ok (types, tail) => .ok (type :: types, tail)
        | .error fault => .error fault
      | .error fault => .error fault
termination_by text.length
decreasing_by exact this

/-- A text that is one method descriptor and nothing else. -/
def MethodType.ofChars (whole : List Char) : Except Fault MethodType :=
  match whole with
  | '(' :: text =>
    match MethodType.readParams whole text with
    | .ok (params, ['V']) => .ok ⟨params, .void⟩
    | .ok (params, tail) =>
      match FieldType.ofChars tail with
      | .ok type => .ok ⟨params, .value type⟩
      | .error _ => .error (malformedAt whole)
    | .error fault => .error fault
  | _ => .error (malformedAt whole)

/-- The type that a descriptor spells. -/
def FieldType.parse (descriptor : String) : Except Fault FieldType :=
  FieldType.ofChars descriptor.toList

/-- The method type that a descriptor spells. -/
def MethodType.parse (descriptor : String) : Except Fault MethodType :=
  MethodType.ofChars descriptor.toList

/-! ## Names stored as descriptors -/

/-- The name of the class type that a descriptor spells, if it spells one. -/
def classNameOfDescriptor (descriptor : String) : Option String :=
  match FieldType.parse descriptor with
  | .ok (.object internalName) => some (Text.binaryName internalName)
  | _ => none

/-- The name of the type that a class constant stands for: such a constant holds an internal name,
or the descriptor of an array type. -/
def typeNameOfClassConstant (text : String) : Except Fault String :=
  match text.toList with
  | '[' :: _ => (FieldType.parse text).map FieldType.typeName
  | _ => .ok (Text.binaryName text)

/-- The name of the type that a class literal's descriptor spells; `V` is `void`. -/
def typeNameOfLiteral (descriptor : String) : Except Fault String :=
  if descriptor = "V" then .ok "void" else (FieldType.parse descriptor).map FieldType.typeName

/-! ## From names to descriptors -/

/-- The descriptor of a name that is not an array's: the letter of a primitive word or of `void`,
and `L…;` around anything else. -/
def elementDescriptor (name : String) : List Char :=
  match name with
  | "void" => ['V']
  | "byte" => ['B']
  | "char" => ['C']
  | "double" => ['D']
  | "float" => ['F']
  | "int" => ['I']
  | "long" => ['J']
  | "short" => ['S']
  | "boolean" => ['Z']
  | other => 'L' :: (Text.internalName other).toList ++ [';']

/-- The descriptor of a type name, as characters: one bracket for every final `[]`. -/
def descriptorChars (name : List Char) : List Char :=
  match h : Text.stripDimension name with
  | some component =>
    have := Text.length_stripDimension h
    '[' :: descriptorChars component
  | none => elementDescriptor (String.ofList name)
termination_by name.length

/-- The descriptor of a type name: `[I` for `int[]`. -/
def descriptorOf (name : String) : String := String.ofList (descriptorChars name.toList)

end TypeAtlas
