/-!
# Names of types

A class file writes a type's name with slashes (`java/util/Map$Entry`, the *internal* form); the
rest of the library uses dots (`java.util.Map$Entry`, the *binary* form). A type name may also be
a primitive word or end in `[]`, once for each array dimension.
-/

set_option autoImplicit false

namespace TypeAtlas.Text

/-- Replaces every occurrence of one character by another. -/
def replaceChar (old new : Char) (text : String) : String :=
  String.ofList (text.toList.map fun c => if c = old then new else c)

/-- The binary form of an internal name. -/
def binaryName (internal : String) : String := replaceChar '/' '.' internal

/-- The internal form of a binary name. An array descriptor is kept as it is. -/
def internalName (name : String) : String :=
  match name.toList with
  | '[' :: _ => name
  | _ => replaceChar '.' '/' name

/-- The part of a text after its last dot, reading backwards; nothing if there is no dot. -/
def splitLastDot (text : List Char) : Option (List Char × List Char) :=
  let simple := (text.reverse.takeWhile (· ≠ '.')).reverse
  match text.reverse.dropWhile (· ≠ '.') with
  | [] => none
  | _ :: package => some (package.reverse, simple)

/-- The part of a type name before its last dot, empty if there is none. -/
def packageOf (name : String) : String :=
  match splitLastDot name.toList with
  | some (package, _) => String.ofList package
  | none => ""

/-- The part of a type name after its last dot, or all of it. -/
def simpleNameOf (name : String) : String :=
  match splitLastDot name.toList with
  | some (_, simple) => String.ofList simple
  | none => name

/-- The array type with one more dimension. -/
def arrayOf (component : String) : String := component ++ "[]"

/-- The characters before a final `[]`, if the text ends so. -/
def stripDimension (text : List Char) : Option (List Char) :=
  match text.reverse with
  | ']' :: '[' :: component => some component.reverse
  | _ => none

/-- The component's name of an array type's name. -/
def componentOf (name : String) : Option String :=
  (stripDimension name.toList).map String.ofList

/-- The names of the eight primitive types, and `void`. -/
def primitiveWords : List String :=
  ["boolean", "byte", "char", "short", "int", "long", "float", "double", "void"]

/-! ## Laws -/

theorem length_stripDimension {text component : List Char}
    (h : stripDimension text = some component) : component.length + 2 = text.length := by
  unfold stripDimension at h
  split at h
  · rename_i front heq
    have := congrArg List.length heq
    simp at this h
    subst h
    simp
    omega
  · simp at h

theorem stripDimension_arrayOf (component : String) :
    stripDimension (arrayOf component).toList = some component.toList := by
  simp [arrayOf, stripDimension]

theorem componentOf_arrayOf (component : String) :
    componentOf (arrayOf component) = some component := by
  rw [componentOf, stripDimension_arrayOf, Option.map_some, String.ofList_toList]

/-- Only an array type has a component. -/
theorem eq_arrayOf_of_componentOf {name component : String}
    (h : componentOf name = some component) : name = arrayOf component := by
  obtain ⟨front, hfront, rfl⟩ := Option.map_eq_some_iff.1 h
  have htext : name.toList = front ++ ['[', ']'] := by
    rw [stripDimension] at hfront
    split at hfront
    · rename_i reversed hreverse
      cases hfront
      rw [← List.reverse_reverse name.toList, hreverse]
      simp only [List.reverse_cons, List.append_assoc, List.cons_append, List.nil_append]
    · cases hfront
  apply String.toList_injective
  rw [htext, arrayOf, String.toList_append, String.toList_ofList]
  rfl

end TypeAtlas.Text
