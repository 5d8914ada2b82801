import TypeAtlas.Proofs.ClassFile.Reads

/-!
# The grammar of descriptors

`IsFieldDescriptor` and `IsMethodDescriptor` are the grammar. A type that can be spelled
(`FieldType.Spellable`) is read off exactly the texts that start with its printed form
(`FieldType.read_eq_ok_iff`), so a descriptor is parsed as the one tree that prints it
(`FieldType.parse_eq_ok_iff`, `MethodType.parse_eq_ok_iff`), and the printed forms are the texts of
the grammar (`isFieldDescriptor_iff`, `isMethodDescriptor_iff`).
-/

set_option autoImplicit false

namespace TypeAtlas

open ClassFile (bind_eq_ok_iff map_eq_ok_iff)

/-! ## The grammar -/

/-- The descriptors of types. -/
inductive IsFieldDescriptor : List Char → Prop where
  | base {c : Char} (h : c ∈ ['B', 'C', 'D', 'F', 'I', 'J', 'S', 'Z']) : IsFieldDescriptor [c]
  | object {name : List Char} (hne : name ≠ []) (hfree : ';' ∉ name) :
    IsFieldDescriptor ('L' :: name ++ [';'])
  | array {text : List Char} (h : IsFieldDescriptor text) : IsFieldDescriptor ('[' :: text)

/-- The descriptors of results. -/
inductive IsResultDescriptor : List Char → Prop where
  | void : IsResultDescriptor ['V']
  | value {text : List Char} (h : IsFieldDescriptor text) : IsResultDescriptor text

/-- The descriptors of methods. -/
inductive IsMethodDescriptor : List Char → Prop where
  | method {params : List (List Char)} {result : List Char}
    (hparams : ∀ text ∈ params, IsFieldDescriptor text) (hresult : IsResultDescriptor result) :
    IsMethodDescriptor ('(' :: params.flatten ++ ')' :: result)

/-! ## Trees of the grammar -/

/-- The end of a class name can be seen in a printed type: the name has a character, and no
semicolon. -/
def FieldType.Spellable : FieldType → Prop
  | .base _ => True
  | .object internalName => internalName.toList ≠ [] ∧ ';' ∉ internalName.toList
  | .array component => component.Spellable

def ReturnType.Spellable : ReturnType → Prop
  | .void => True
  | .value type => type.Spellable

structure MethodType.Spellable (type : MethodType) : Prop where
  params : ∀ param ∈ type.params, param.Spellable
  result : type.result.Spellable

theorem FieldType.spellable_object {name : List Char} :
    (FieldType.object (String.ofList name)).Spellable ↔ name ≠ [] ∧ ';' ∉ name := by
  rw [FieldType.Spellable, String.toList_ofList]

theorem FieldType.chars_object (name : List Char) :
    (FieldType.object (String.ofList name)).chars = 'L' :: name ++ [';'] := by
  rw [FieldType.chars, String.toList_ofList]

/-! ## Letters -/

theorem BaseType.ofLetter?_eq_some_iff {c : Char} {type : BaseType} :
    BaseType.ofLetter? c = some type ↔ c = type.letter := by
  constructor
  · intro h
    unfold BaseType.ofLetter? at h
    split at h
    all_goals first | (cases h; rfl) | cases h
  · rintro rfl
    cases type <;> rfl

theorem BaseType.letter_mem (type : BaseType) :
    type.letter ∈ ['B', 'C', 'D', 'F', 'I', 'J', 'S', 'Z'] := by
  cases type <;> decide

theorem BaseType.exists_letter {c : Char} (h : c ∈ ['B', 'C', 'D', 'F', 'I', 'J', 'S', 'Z']) :
    ∃ type : BaseType, type.letter = c := by
  simp only [List.mem_cons, List.not_mem_nil, or_false] at h
  rcases h with rfl | rfl | rfl | rfl | rfl | rfl | rfl | rfl
  exacts [⟨.byte, rfl⟩, ⟨.char, rfl⟩, ⟨.double, rfl⟩, ⟨.float, rfl⟩, ⟨.int, rfl⟩, ⟨.long, rfl⟩,
    ⟨.short, rfl⟩, ⟨.boolean, rfl⟩]

/-! ## One type -/

/-- A text is split at its first semicolon. -/
theorem eq_of_dropWhile_semicolon {text after : List Char} {c : Char}
    (h : text.dropWhile (· ≠ ';') = c :: after) :
    text = text.takeWhile (· ≠ ';') ++ ';' :: after ∧ ';' ∉ text.takeWhile (· ≠ ';') := by
  constructor
  · have hhead := List.head?_dropWhile_not (· ≠ ';') text
    rw [h] at hhead
    have hc : c = ';' := by simpa using hhead
    subst hc
    rw [← h, List.takeWhile_append_dropWhile]
  · intro hmem
    have hother := List.all_eq_true.1 List.all_takeWhile _ hmem
    exact absurd hother (by decide)

/-- A type is read off its printed form, whatever follows. -/
theorem FieldType.read_append {type : FieldType} (h : type.Spellable) (rest : List Char) :
    FieldType.read (type.chars ++ rest) = .ok (type, rest) := by
  induction type with
  | base type => cases type <;> rfl
  | object name =>
    obtain ⟨hne, hfree⟩ := h
    have hother : ∀ c ∈ name.toList, decide (c ≠ ';') = true := fun c hc =>
      decide_eq_true (ne_of_mem_of_not_mem hc hfree)
    have htake : (name.toList ++ ';' :: rest).takeWhile (· ≠ ';') = name.toList := by
      rw [List.takeWhile_append_of_pos hother]
      exact List.append_nil _
    have hdrop : (name.toList ++ ';' :: rest).dropWhile (· ≠ ';') = ';' :: rest := by
      rw [List.dropWhile_append_of_pos hother]
      rfl
    have hchars : FieldType.chars (.object name) ++ rest = 'L' :: (name.toList ++ ';' :: rest) := by
      rw [FieldType.chars, List.append_assoc, List.cons_append, List.singleton_append]
    rw [hchars, FieldType.read, htake, hdrop]
    obtain ⟨c, others, hname⟩ := List.exists_cons_of_ne_nil hne
    simp only [hname]
    rw [← hname, String.ofList_toList]
  | array component ih => rw [FieldType.chars, List.cons_append, FieldType.read, ih h]

/-- What is read off a text is a type that can be spelled, and it stands at the front. -/
theorem FieldType.of_read {text rest : List Char} {type : FieldType}
    (h : FieldType.read text = .ok (type, rest)) : type.Spellable ∧ text = type.chars ++ rest := by
  induction text generalizing type rest with
  | nil => cases h
  | cons c tail ih =>
    unfold FieldType.read at h
    split at h
    · cases h
    -- an array type: its component stands behind the bracket
    · rename_i heq
      cases heq
      split at h
      · rename_i component after hread
        cases h
        obtain ⟨hspellable, htail⟩ := ih hread
        exact ⟨hspellable, by rw [FieldType.chars, List.cons_append, ← htail]⟩
      · cases h
    -- a class type: its name ends at the first semicolon
    · rename_i heq
      cases heq
      split at h
      · rename_i first name semicolon after hname hafter
        cases h
        obtain ⟨hsplit, hfree⟩ := eq_of_dropWhile_semicolon hafter
        rw [hname] at hsplit hfree
        refine ⟨FieldType.spellable_object.2 ⟨List.cons_ne_nil first name, hfree⟩, ?_⟩
        rw [FieldType.chars_object, List.append_assoc, List.cons_append, List.singleton_append,
          ← hsplit]
      · cases h
    · rename_i heq
      cases heq
      split at h
      · rename_i base hbase
        cases h
        rw [BaseType.ofLetter?_eq_some_iff.1 hbase]
        exact ⟨trivial, rfl⟩
      · cases h

/-- A type is read off exactly the texts that start with its printed form. -/
theorem FieldType.read_eq_ok_iff {text rest : List Char} {type : FieldType} :
    FieldType.read text = .ok (type, rest) ↔ type.Spellable ∧ text = type.chars ++ rest := by
  constructor
  · exact FieldType.of_read
  · rintro ⟨h, rfl⟩
    exact FieldType.read_append h rest

theorem FieldType.ofChars_eq_ok_iff {text : List Char} {type : FieldType} :
    FieldType.ofChars text = .ok type ↔ type.Spellable ∧ text = type.chars := by
  rw [← List.append_nil type.chars, ← FieldType.read_eq_ok_iff, FieldType.ofChars]
  constructor
  · intro h
    split at h
    · rename_i hread
      cases h
      exact hread
    · cases h
    · cases h
  · intro h
    rw [h]

/-- The texts of the grammar are the printed forms of the types that can be spelled. -/
theorem isFieldDescriptor_iff {text : List Char} :
    IsFieldDescriptor text ↔ ∃ type : FieldType, type.Spellable ∧ text = type.chars := by
  constructor
  · intro h
    induction h with
    | base h =>
      obtain ⟨type, rfl⟩ := BaseType.exists_letter h
      exact ⟨.base type, trivial, rfl⟩
    | @object name hne hfree =>
      exact ⟨.object (String.ofList name), FieldType.spellable_object.2 ⟨hne, hfree⟩,
        (FieldType.chars_object name).symm⟩
    | array _ ih =>
      obtain ⟨type, hspellable, rfl⟩ := ih
      exact ⟨.array type, hspellable, rfl⟩
  · rintro ⟨type, hspellable, rfl⟩
    induction type with
    | base type => exact .base type.letter_mem
    | object name => exact .object hspellable.1 hspellable.2
    | array component ih => exact .array (ih hspellable)

/-- Whatever prints the same as a type that can be spelled is that type. -/
theorem FieldType.eq_of_chars_eq {type other : FieldType} (h : type.Spellable)
    (hchars : other.chars = type.chars) : other = type := by
  induction type generalizing other with
  | base type =>
    cases other with
    | base other =>
      have hletter : other.letter = type.letter := List.head_eq_of_cons_eq hchars
      have hsame := BaseType.ofLetter?_eq_some_iff.2 hletter
      rw [BaseType.ofLetter?_eq_some_iff.2 rfl] at hsame
      rw [Option.some.inj hsame]
    | object name =>
      have hlength := congrArg List.length hchars
      simp [FieldType.chars] at hlength
    | array component => cases type <;> cases hchars
  | object name =>
    cases other with
    | base other => cases other <;> cases hchars
    | object other =>
      have hname := List.append_cancel_right (List.tail_eq_of_cons_eq hchars)
      rw [String.toList_inj.1 hname]
    | array component => cases hchars
  | array component ih =>
    cases other with
    | base other => cases other <;> cases hchars
    | object name => cases hchars
    | array other => rw [ih h (List.tail_eq_of_cons_eq hchars)]

/-! ## Whole methods -/

theorem FieldType.exists_cons_chars (type : FieldType) :
    ∃ c rest, type.chars = c :: rest ∧ c ≠ ')' := by
  cases type with
  | base type => exact ⟨type.letter, [], rfl, by cases type <;> decide⟩
  | object name => exact ⟨'L', _, rfl, by decide⟩
  | array component => exact ⟨'[', _, rfl, by decide⟩

/-- Reading types ends at a closing parenthesis, or else goes on behind the next type. -/
theorem MethodType.readParams_cases {whole text tail : List Char} {params : List FieldType}
    (h : MethodType.readParams whole text = .ok (params, tail)) :
    (text = ')' :: tail ∧ params = []) ∨
      ∃ type after types, FieldType.read text = .ok (type, after) ∧
        MethodType.readParams whole after = .ok (types, tail) ∧ params = type :: types := by
  cases text with
  | nil =>
    rw [MethodType.readParams] at h
    cases h
  | cons c rest =>
    rw [MethodType.readParams] at h
    split at h
    · rename_i hc
      cases h
      exact Or.inl ⟨by rw [hc], rfl⟩
    · split at h
      · rename_i type after hread
        split at h
        · rename_i types others hothers
          cases h
          exact Or.inr ⟨type, after, types, hread, hothers, rfl⟩
        · cases h
      · cases h

/-- Behind a type that is read, reading goes on. -/
theorem MethodType.readParams_of_read {whole rest after : List Char} {c : Char} {type : FieldType}
    (hc : c ≠ ')') (hread : FieldType.read (c :: rest) = .ok (type, after)) :
    MethodType.readParams whole (c :: rest) =
      (MethodType.readParams whole after).map fun others => (type :: others.1, others.2) := by
  rw [MethodType.readParams, if_neg hc]
  split
  · rename_i heq
    rw [hread] at heq
    cases heq
    cases MethodType.readParams whole after <;> rfl
  · rename_i heq
    rw [hread] at heq
    cases heq

/-- Types are read up to the first closing parenthesis that stands where a type could start. -/
theorem MethodType.readParams_eq_ok_iff {whole text tail : List Char} {params : List FieldType} :
    MethodType.readParams whole text = .ok (params, tail) ↔
      (∀ param ∈ params, param.Spellable) ∧
        text = params.flatMap FieldType.chars ++ ')' :: tail := by
  constructor
  · intro h
    induction params generalizing text with
    | nil =>
      rcases MethodType.readParams_cases h with ⟨rfl, -⟩ | ⟨type, after, types, -, -, hcons⟩
      · exact ⟨fun param hparam => absurd hparam List.not_mem_nil, rfl⟩
      · cases hcons
    | cons param params ih =>
      rcases MethodType.readParams_cases h with ⟨-, hnil⟩ | ⟨type, after, types, hread, hrest, hcons⟩
      · cases hnil
      · cases hcons
        obtain ⟨hspellable, rfl⟩ := FieldType.of_read hread
        obtain ⟨hothers, rfl⟩ := ih hrest
        refine ⟨List.forall_mem_cons.2 ⟨hspellable, hothers⟩, ?_⟩
        rw [List.flatMap_cons, List.append_assoc]
  · rintro ⟨hspellable, rfl⟩
    induction params with
    | nil =>
      rw [List.flatMap_nil, List.nil_append, MethodType.readParams, if_pos rfl]
    | cons param params ih =>
      obtain ⟨hparam, hparams⟩ := List.forall_mem_cons.1 hspellable
      obtain ⟨c, rest, hchars, hc⟩ := param.exists_cons_chars
      have hread := FieldType.read_append hparam (params.flatMap FieldType.chars ++ ')' :: tail)
      rw [List.flatMap_cons, List.append_assoc]
      rw [hchars, List.cons_append] at hread ⊢
      rw [MethodType.readParams_of_read hc hread, ih hparams]
      rfl

theorem ReturnType.chars_eq_void_iff {type : ReturnType} : type.chars = ['V'] ↔ type = .void := by
  constructor
  · intro h
    cases type with
    | void => rfl
    | value type =>
      cases type with
      | base type => cases type <;> cases h
      | object name => cases h
      | array component => cases h
  · rintro rfl
    rfl

/-- The result that the text behind the parameters spells; `whole` is blamed when it spells none. -/
def ReturnType.ofChars (whole tail : List Char) : Except Fault ReturnType :=
  if tail = ['V'] then .ok .void
  else
    match FieldType.ofChars tail with
    | .ok type => .ok (.value type)
    | .error _ => .error (malformedAt whole)

theorem ReturnType.ofChars_eq_ok_iff {whole tail : List Char} {type : ReturnType} :
    ReturnType.ofChars whole tail = .ok type ↔ type.Spellable ∧ tail = type.chars := by
  unfold ReturnType.ofChars
  by_cases hvoid : tail = ['V']
  · rw [if_pos hvoid, hvoid]
    constructor
    · rintro ⟨⟩
      exact ⟨trivial, rfl⟩
    · rintro ⟨-, hchars⟩
      rw [ReturnType.chars_eq_void_iff.1 hchars.symm]
  · rw [if_neg hvoid]
    constructor
    · intro h
      split at h
      · rename_i value hvalue
        cases h
        exact FieldType.ofChars_eq_ok_iff.1 hvalue
      · cases h
    · rintro ⟨hspellable, rfl⟩
      cases type with
      | void => exact absurd rfl hvoid
      | value type =>
        have hvalue : FieldType.ofChars type.chars = .ok type :=
          FieldType.ofChars_eq_ok_iff.2 ⟨hspellable, rfl⟩
        rw [ReturnType.chars, hvalue]

/-- A method descriptor is its parameters and then its result. -/
theorem MethodType.ofChars_open (text : List Char) :
    MethodType.ofChars ('(' :: text) =
      (MethodType.readParams ('(' :: text) text >>= fun params =>
        (ReturnType.ofChars ('(' :: text) params.2).map fun result => ⟨params.1, result⟩) := by
  rw [MethodType.ofChars]
  cases MethodType.readParams ('(' :: text) text with
  | error fault => rfl
  | ok read =>
    obtain ⟨params, tail⟩ := read
    by_cases hvoid : tail = ['V']
    · subst hvoid
      rfl
    · show _ = (ReturnType.ofChars ('(' :: text) tail).map (MethodType.mk params)
      rw [ReturnType.ofChars, if_neg hvoid]
      split
      · rename_i heq
        exact absurd (congrArg Prod.snd (Except.ok.inj heq)) hvoid
      · rename_i heq
        cases heq
        cases FieldType.ofChars tail <;> rfl
      · rename_i heq
        cases heq

/-- Without an opening parenthesis there is no method descriptor. -/
theorem MethodType.ofChars_of_not_open {whole : List Char} (h : ∀ text, whole ≠ '(' :: text) :
    MethodType.ofChars whole = .error (malformedAt whole) := by
  unfold MethodType.ofChars
  split
  · exact absurd rfl (h _)
  · rfl

theorem MethodType.ofChars_eq_ok_iff {whole : List Char} {type : MethodType} :
    MethodType.ofChars whole = .ok type ↔ type.Spellable ∧ whole = type.chars := by
  by_cases hopen : ∃ text, whole = '(' :: text
  · obtain ⟨text, rfl⟩ := hopen
    rw [MethodType.ofChars_open, bind_eq_ok_iff]
    constructor
    · rintro ⟨⟨params, tail⟩, hparams, hresult⟩
      obtain ⟨hspellable, rfl⟩ := MethodType.readParams_eq_ok_iff.1 hparams
      obtain ⟨result, hfound, rfl⟩ := map_eq_ok_iff.1 hresult
      obtain ⟨hvalue, rfl⟩ := ReturnType.ofChars_eq_ok_iff.1 hfound
      exact ⟨⟨hspellable, hvalue⟩, rfl⟩
    · rintro ⟨hspellable, hchars⟩
      refine ⟨(type.params, type.result.chars), ?_, ?_⟩
      · exact MethodType.readParams_eq_ok_iff.2
          ⟨hspellable.params, List.tail_eq_of_cons_eq hchars⟩
      · exact map_eq_ok_iff.2
          ⟨type.result, ReturnType.ofChars_eq_ok_iff.2 ⟨hspellable.result, rfl⟩, rfl⟩
  · have hnot : ∀ text, whole ≠ '(' :: text := fun text h => hopen ⟨text, h⟩
    rw [MethodType.ofChars_of_not_open hnot]
    constructor
    · intro h
      cases h
    · rintro ⟨-, rfl⟩
      exact absurd rfl (hnot _)

theorem isResultDescriptor_iff {text : List Char} :
    IsResultDescriptor text ↔ ∃ type : ReturnType, type.Spellable ∧ text = type.chars := by
  constructor
  · rintro (_ | h)
    · exact ⟨.void, trivial, rfl⟩
    · obtain ⟨type, hspellable, rfl⟩ := isFieldDescriptor_iff.1 h
      exact ⟨.value type, hspellable, rfl⟩
  · rintro ⟨type, hspellable, rfl⟩
    cases type with
    | void => exact .void
    | value type => exact .value (isFieldDescriptor_iff.2 ⟨type, hspellable, rfl⟩)

theorem exists_params_of_descriptors {texts : List (List Char)}
    (h : ∀ text ∈ texts, IsFieldDescriptor text) :
    ∃ params : List FieldType, (∀ param ∈ params, param.Spellable) ∧
      texts = params.map FieldType.chars := by
  induction texts with
  | nil => exact ⟨[], fun param hparam => absurd hparam List.not_mem_nil, rfl⟩
  | cons text texts ih =>
    obtain ⟨htext, htexts⟩ := List.forall_mem_cons.1 h
    obtain ⟨param, hparam, rfl⟩ := isFieldDescriptor_iff.1 htext
    obtain ⟨params, hparams, rfl⟩ := ih htexts
    exact ⟨param :: params, List.forall_mem_cons.2 ⟨hparam, hparams⟩, rfl⟩

theorem isMethodDescriptor_iff {text : List Char} :
    IsMethodDescriptor text ↔ ∃ type : MethodType, type.Spellable ∧ text = type.chars := by
  constructor
  · rintro ⟨hparams, hresult⟩
    obtain ⟨params, hspellable, rfl⟩ := exists_params_of_descriptors hparams
    obtain ⟨result, hvalue, rfl⟩ := isResultDescriptor_iff.1 hresult
    refine ⟨⟨params, result⟩, ⟨hspellable, hvalue⟩, ?_⟩
    rw [MethodType.chars, List.flatMap_def]
  · rintro ⟨⟨params, result⟩, ⟨hparams, hresult⟩, rfl⟩
    rw [MethodType.chars, List.flatMap_def]
    refine .method (fun text htext => ?_) (isResultDescriptor_iff.2 ⟨result, hresult, rfl⟩)
    obtain ⟨param, hparam, rfl⟩ := List.mem_map.1 htext
    exact isFieldDescriptor_iff.2 ⟨param, hparams param hparam, rfl⟩

/-! ## Strings -/

theorem toList_eq_iff {text : String} {chars : List Char} :
    text.toList = chars ↔ String.ofList chars = text := by
  constructor
  · rintro rfl
    exact String.ofList_toList
  · rintro rfl
    exact String.toList_ofList

/-- A descriptor is parsed as the type that prints it. -/
theorem FieldType.parse_eq_ok_iff {text : String} {type : FieldType} :
    FieldType.parse text = .ok type ↔ type.Spellable ∧ type.descriptor = text := by
  rw [FieldType.parse, FieldType.ofChars_eq_ok_iff, toList_eq_iff, FieldType.descriptor]

/-- A descriptor is parsed as the method type that prints it. -/
theorem MethodType.parse_eq_ok_iff {text : String} {type : MethodType} :
    MethodType.parse text = .ok type ↔ type.Spellable ∧ type.descriptor = text := by
  rw [MethodType.parse, MethodType.ofChars_eq_ok_iff, toList_eq_iff, MethodType.descriptor]

theorem isOk_iff {ε α : Type} {x : Except ε α} : x.isOk = true ↔ ∃ a, x = .ok a := by
  cases x with
  | error e =>
    constructor
    · intro h
      cases h
    · rintro ⟨a, h⟩
      cases h
  | ok a => exact ⟨fun _ => ⟨a, rfl⟩, fun _ => rfl⟩

/-- Exactly the texts of the grammar are parsed as types. -/
theorem FieldType.isOk_parse_iff {text : String} :
    (FieldType.parse text).isOk = true ↔ IsFieldDescriptor text.toList := by
  rw [isOk_iff, isFieldDescriptor_iff]
  simp only [FieldType.parse, FieldType.ofChars_eq_ok_iff]

/-- Exactly the texts of the grammar are parsed as method types. -/
theorem MethodType.isOk_parse_iff {text : String} :
    (MethodType.parse text).isOk = true ↔ IsMethodDescriptor text.toList := by
  rw [isOk_iff, isMethodDescriptor_iff]
  simp only [MethodType.parse, MethodType.ofChars_eq_ok_iff]

end TypeAtlas
