import TypeAtlas.Proofs.Descriptor.Grammar
import TypeAtlas.Proofs.Text.ByteOffsets

/-!
# Reading descriptors by byte offsets

The reader once more, on a text whose parts are named by offsets into its bytes: it looks at the
first byte, searches for the next semicolon and slices the text at the offsets that it gets. A slice
that cuts a character in two would stop it. None does, whatever the text
(`FieldType.readSliced_eq`), so this reader returns what the reader of characters returns; with the
grammar this says what a descriptor is and how it is read (`descriptors_read_exactly`).
-/

set_option autoImplicit false

namespace TypeAtlas

/-! ## The reader -/

/-- Why the reader of byte offsets stops without a type. -/
inductive Halt where
  /-- A slice would cut a character in two, or go past the end. -/
  | badSlice
  /-- The text is rejected. -/
  | rejected (fault : Fault)
  deriving DecidableEq, Repr

/-- A slice that has to be there. -/
def sliced (part : Option (List Char)) : Except Halt (List Char) :=
  match part with
  | some text => .ok text
  | none => .error .badSlice

/-- Rejects a text. -/
def haltAt {α : Type} (text : List Char) : Except Halt α := .error (.rejected (malformedAt text))

/-- Reads the name of a class, which starts behind the first byte and ends before a semicolon. -/
def readClassSlice (text : List Char) : Except Halt (FieldType × List Char) :=
  match Text.offsetOf? ';' text with
  | none => haltAt text
  | some stop =>
    if 1 < stop then do
      let name ← sliced (Text.slice 1 stop text)
      let after ← sliced (Text.sliceFrom (stop + 1) text)
      return (.object (String.ofList name), after)
    else haltAt text

/-- Reads a base type, whose letter is the first byte. -/
def readBaseSlice (letter : Char) (text : List Char) : Except Halt (FieldType × List Char) :=
  match BaseType.ofLetter? letter with
  | some type => do
    let rest ← sliced (Text.sliceFrom 1 text)
    return (.base type, rest)
  | none => haltAt text

/-- Reads one type off the front of a text, as its first byte says. -/
def FieldType.readSliced (text : List Char) : Except Halt (FieldType × List Char) :=
  match Text.firstByte? text with
  | none => haltAt text
  | some b =>
    if Char.ofNat b.toNat = '[' then
      match h : Text.sliceFrom 1 text with
      | none => .error .badSlice
      | some rest =>
        have := Text.length_of_sliceFrom_one h
        match FieldType.readSliced rest with
        | .ok (component, after) => .ok (.array component, after)
        | .error halt => .error halt
    else if Char.ofNat b.toNat = 'L' then readClassSlice text
    else readBaseSlice (Char.ofNat b.toNat) text
termination_by text.length
decreasing_by exact this

/-- The outcome of a reader that cuts nothing in two. -/
def uncut {α : Type} (result : Except Fault α) : Except Halt α := result.mapError .rejected

theorem sliceFrom_one {c : Char} (hc : c.utf8Size = 1) (rest : List Char) :
    Text.sliceFrom 1 (c :: rest) = some rest := by
  refine Text.sliceFrom_eq_some_iff.2 ⟨[c], rfl, ?_⟩
  rw [Text.byteLength_cons, hc]
  rfl

/-- Without a semicolon there is no end to the name of a class. -/
theorem FieldType.read_of_unended {rest : List Char} (h : ';' ∉ rest) :
    FieldType.read ('L' :: rest) = .error (malformedAt ('L' :: rest)) := by
  have hdrop : rest.dropWhile (· ≠ ';') = [] := by
    rw [← List.append_nil rest, List.dropWhile_append_of_pos fun c hc =>
      decide_eq_true (ne_of_mem_of_not_mem hc h)]
    rfl
  rw [FieldType.read, hdrop]
  cases rest.takeWhile (· ≠ ';') <;> rfl

theorem readClassSlice_eq (rest : List Char) :
    readClassSlice ('L' :: rest) = uncut (FieldType.read ('L' :: rest)) := by
  by_cases hmem : ';' ∈ rest
  · obtain ⟨name, after, rfl, hfree⟩ := List.eq_append_cons_of_mem hmem
    have hfree' : ';' ∉ 'L' :: name := fun h =>
      (List.mem_cons.1 h).elim (by decide) hfree
    have hstop : Text.offsetOf? ';' ('L' :: (name ++ ';' :: after)) =
        some (Text.byteLength ('L' :: name)) := Text.offsetOf?_append hfree' after
    unfold readClassSlice
    rw [hstop]
    cases name with
    | nil => rfl
    | cons c name =>
      have hlt : 1 < Text.byteLength ('L' :: c :: name) := by
        have hpos := c.utf8Size_pos
        rw [Text.byteLength_cons, Text.byteLength_cons]
        show 1 < 1 + (c.utf8Size + Text.byteLength name)
        omega
      have hname : Text.slice 1 (Text.byteLength ('L' :: c :: name))
          ('L' :: (c :: name ++ ';' :: after)) = some (c :: name) :=
        Text.slice_append ['L'] (c :: name) (';' :: after)
      have hafter : Text.sliceFrom (Text.byteLength ('L' :: c :: name) + 1)
          ('L' :: (c :: name ++ ';' :: after)) = some after := by
        refine Text.sliceFrom_eq_some_iff.2 ⟨'L' :: c :: name ++ [';'], ?_, ?_⟩
        · simp only [List.cons_append, List.append_assoc, List.nil_append]
        · rw [Text.byteLength_append]
          rfl
      have hspellable : (FieldType.object (String.ofList (c :: name))).Spellable :=
        FieldType.spellable_object.2 ⟨List.cons_ne_nil c name, hfree⟩
      have hread := FieldType.read_append hspellable after
      rw [FieldType.chars_object, List.append_assoc, List.singleton_append, List.cons_append]
        at hread
      rw [hread]
      simp only [if_pos hlt, hname, hafter]
      rfl
  · have hnone : Text.offsetOf? ';' ('L' :: rest) = none :=
      Text.offsetOf?_eq_none fun h => (List.mem_cons.1 h).elim (by decide) hmem
    rw [readClassSlice, hnone, FieldType.read_of_unended hmem]
    rfl

theorem FieldType.read_of_other {c : Char} (harray : c ≠ '[') (hclass : c ≠ 'L')
    (rest : List Char) :
    FieldType.read (c :: rest) =
      match BaseType.ofLetter? c with
      | some type => .ok (.base type, rest)
      | none => .error (malformedAt (c :: rest)) := by
  rw [FieldType.read.eq_def]
  split
  · rename_i heq
    cases heq
  · rename_i heq
    exact absurd (List.head_eq_of_cons_eq heq) harray
  · rename_i heq
    exact absurd (List.head_eq_of_cons_eq heq) hclass
  · rename_i heq
    cases heq
    rfl

/-- The letter of a base type is a single byte. -/
theorem readBaseSlice_eq {letter c : Char}
    (hletter : BaseType.ofLetter? letter = BaseType.ofLetter? c) (harray : c ≠ '[')
    (hclass : c ≠ 'L') (rest : List Char) :
    readBaseSlice letter (c :: rest) = uncut (FieldType.read (c :: rest)) := by
  rw [FieldType.read_of_other harray hclass, readBaseSlice, hletter]
  cases hbase : BaseType.ofLetter? c with
  | none => rfl
  | some type =>
    have hsize : c.utf8Size = 1 := by
      rw [BaseType.ofLetter?_eq_some_iff.1 hbase]
      cases type <;> rfl
    simp only [sliceFrom_one hsize]
    rfl

/-- No slice cuts a character in two, and the reader returns what the reader of characters does. -/
theorem FieldType.readSliced_eq (text : List Char) :
    FieldType.readSliced text = uncut (FieldType.read text) := by
  induction text with
  | nil =>
    rw [FieldType.readSliced]
    rfl
  | cons c rest ih =>
    obtain ⟨b, hb, hfirst⟩ := Text.firstByte?_cons c rest
    have harray : Char.ofNat b.toNat = '[' ↔ c = '[' := hfirst '[' (by decide)
    have hclass : Char.ofNat b.toNat = 'L' ↔ c = 'L' := hfirst 'L' (by decide)
    have hbase : BaseType.ofLetter? (Char.ofNat b.toNat) = BaseType.ofLetter? c := by
      apply Option.ext
      intro type
      rw [BaseType.ofLetter?_eq_some_iff, BaseType.ofLetter?_eq_some_iff]
      exact hfirst type.letter (by cases type <;> decide)
    rw [FieldType.readSliced.eq_def, hb]
    simp only [harray, hclass]
    by_cases hopens : c = '['
    · subst hopens
      rw [if_pos rfl]
      split
      · rename_i hslice
        rw [sliceFrom_one rfl] at hslice
        cases hslice
      · rename_i after hslice
        rw [sliceFrom_one rfl] at hslice
        cases hslice
        rw [ih, FieldType.read]
        cases FieldType.read rest <;> rfl
    · rw [if_neg hopens]
      by_cases hnamed : c = 'L'
      · subst hnamed
        rw [if_pos rfl, readClassSlice_eq]
      · rw [if_neg hnamed, readBaseSlice_eq hbase hopens hnamed]

/-! ## Whole descriptors -/

theorem uncut_eq_ok_iff {α : Type} {result : Except Fault α} {a : α} :
    uncut result = .ok a ↔ result = .ok a := by
  cases result with
  | error fault =>
    constructor
    · intro h
      cases h
    · intro h
      cases h
  | ok value =>
    constructor
    · intro h
      cases h
      rfl
    · rintro ⟨⟩
      rfl

/-- A text that is one type and nothing else. -/
def FieldType.ofSlices (text : List Char) : Except Halt FieldType :=
  match FieldType.readSliced text with
  | .ok (type, []) => .ok type
  | .ok (_, _ :: _) => haltAt text
  | .error halt => .error halt

theorem FieldType.ofSlices_eq (text : List Char) :
    FieldType.ofSlices text = uncut (FieldType.ofChars text) := by
  rw [FieldType.ofSlices, FieldType.readSliced_eq, FieldType.ofChars]
  rcases FieldType.read text with fault | ⟨type, _ | ⟨c, rest⟩⟩ <;> rfl

/-- Reads types up to the closing parenthesis; `whole` is blamed when the text ends first. -/
def MethodType.readParamsSliced (whole text : List Char) :
    Except Halt (List FieldType × List Char) :=
  match text with
  | [] => haltAt whole
  | c :: rest =>
    if c = ')' then .ok ([], rest)
    else
      match h : FieldType.readSliced (c :: rest) with
      | .ok (type, after) =>
        have := FieldType.length_read (uncut_eq_ok_iff.1 (FieldType.readSliced_eq _ ▸ h))
        match MethodType.readParamsSliced whole after with
        | .ok (types, tail) => .ok (type :: types, tail)
        | .error halt => .error halt
      | .error halt => .error halt
termination_by text.length
decreasing_by exact this

/-- Reading types step by step never cuts a character in two either. -/
theorem MethodType.readParamsSliced_eq (whole text : List Char) :
    MethodType.readParamsSliced whole text = uncut (MethodType.readParams whole text) := by
  fun_induction MethodType.readParamsSliced whole text with
  | case1 => rw [MethodType.readParams]; rfl
  | case2 rest => rw [MethodType.readParams, if_pos rfl]; rfl
  | case3 c rest hc type after hslice _ types tail hafter ih =>
    rw [FieldType.readSliced_eq] at hslice
    rw [ih] at hafter
    rw [MethodType.readParams_of_read hc (uncut_eq_ok_iff.1 hslice), uncut_eq_ok_iff.1 hafter]
    rfl
  -- the types behind the first one are rejected
  | case4 c rest hc type after hslice _ halt hafter ih =>
    rw [FieldType.readSliced_eq] at hslice
    rw [ih] at hafter
    rw [MethodType.readParams_of_read hc (uncut_eq_ok_iff.1 hslice)]
    cases hrest : MethodType.readParams whole after with
    | error fault =>
      rw [hrest] at hafter
      exact hafter.symm
    | ok others =>
      rw [hrest] at hafter
      cases hafter
  -- the first type is rejected
  | case5 c rest hc halt hslice =>
    rw [FieldType.readSliced_eq] at hslice
    rw [MethodType.readParams, if_neg hc]
    split
    · rename_i heq
      rw [heq] at hslice
      cases hslice
    · rename_i fault heq
      rw [heq] at hslice
      cases hslice
      rfl

/-- The result that the text behind the parameters spells; `whole` is blamed when it spells none,
but a bad slice is none of its faults. -/
def ReturnType.ofSlices (whole tail : List Char) : Except Halt ReturnType :=
  if tail = ['V'] then .ok .void
  else
    match FieldType.ofSlices tail with
    | .ok type => .ok (.value type)
    | .error .badSlice => .error .badSlice
    | .error (.rejected _) => haltAt whole

/-- A text that is one method descriptor and nothing else. -/
def MethodType.ofSlices (whole : List Char) : Except Halt MethodType :=
  match whole with
  | '(' :: text => do
    let params ← MethodType.readParamsSliced whole text
    let result ← ReturnType.ofSlices whole params.2
    return ⟨params.1, result⟩
  | _ => haltAt whole

theorem ReturnType.ofSlices_eq (whole tail : List Char) :
    ReturnType.ofSlices whole tail = uncut (ReturnType.ofChars whole tail) := by
  rw [ReturnType.ofSlices, ReturnType.ofChars, FieldType.ofSlices_eq]
  by_cases hvoid : tail = ['V']
  · rw [if_pos hvoid, if_pos hvoid]
    rfl
  · rw [if_neg hvoid, if_neg hvoid]
    cases FieldType.ofChars tail <;> rfl

theorem MethodType.ofSlices_eq (whole : List Char) :
    MethodType.ofSlices whole = uncut (MethodType.ofChars whole) := by
  unfold MethodType.ofSlices
  split
  · rename_i text
    rw [MethodType.ofChars_open, MethodType.readParamsSliced_eq]
    cases MethodType.readParams ('(' :: text) text with
    | error fault => rfl
    | ok params =>
      show (ReturnType.ofSlices _ params.2 >>= fun result => pure (MethodType.mk params.1 result)) =
        uncut ((ReturnType.ofChars _ params.2).map (MethodType.mk params.1))
      rw [ReturnType.ofSlices_eq]
      cases ReturnType.ofChars ('(' :: text) params.2 <;> rfl
  · rename_i hnot
    rw [MethodType.ofChars_of_not_open hnot]
    rfl

/-- The type that a descriptor spells, read by byte offsets. -/
def FieldType.parseSliced (descriptor : String) : Except Halt FieldType :=
  FieldType.ofSlices descriptor.toList

/-- The method type that a descriptor spells, read by byte offsets. -/
def MethodType.parseSliced (descriptor : String) : Except Halt MethodType :=
  MethodType.ofSlices descriptor.toList

/-- A type is parsed exactly from the texts of the grammar, as the one tree that prints the text;
and so is a method type, the one with names that can be spelled. Reading by byte offsets comes to
the same, without a slice inside a character. -/
theorem descriptors_read_exactly (text : String) :
    ((FieldType.parse text).isOk = true ↔ IsFieldDescriptor text.toList) ∧
      ((MethodType.parse text).isOk = true ↔ IsMethodDescriptor text.toList) ∧
      (∀ type, FieldType.parse text = .ok type ↔ type.Spellable ∧ type.descriptor = text) ∧
      (∀ type other, FieldType.parse text = .ok type → other.descriptor = text → other = type) ∧
      (∀ type, MethodType.parse text = .ok type ↔ type.Spellable ∧ type.descriptor = text) ∧
      FieldType.parseSliced text = uncut (FieldType.parse text) ∧
      MethodType.parseSliced text = uncut (MethodType.parse text) := by
  refine ⟨FieldType.isOk_parse_iff, MethodType.isOk_parse_iff, fun _ => FieldType.parse_eq_ok_iff,
    fun type other hparse hother => ?_, fun _ => MethodType.parse_eq_ok_iff,
    FieldType.ofSlices_eq _, MethodType.ofSlices_eq _⟩
  obtain ⟨hspellable, hprinted⟩ := FieldType.parse_eq_ok_iff.1 hparse
  exact FieldType.eq_of_chars_eq hspellable (String.ofList_inj.1 (hother.trans hprinted.symm))

/-- The names of a descriptor may take more than one byte a character. -/
theorem descriptors_read_exactly_multibyte :
    MethodType.parse "(I[Lλ/Näme;)V" =
        .ok ⟨[.base .int, .array (.object "λ/Näme")], .void⟩ ∧
      MethodType.parseSliced "(I[Lλ/Näme;)V" =
        .ok ⟨[.base .int, .array (.object "λ/Näme")], .void⟩ := by
  obtain ⟨-, -, -, -, hparse, -, hsliced⟩ := descriptors_read_exactly "(I[Lλ/Näme;)V"
  have hread : MethodType.parse "(I[Lλ/Näme;)V" =
      .ok ⟨[.base .int, .array (.object "λ/Näme")], .void⟩ := by
    refine (hparse _).2 ⟨⟨?_, trivial⟩, by decide⟩
    simp [FieldType.Spellable]
  exact ⟨hread, by rw [hsliced, hread]; rfl⟩

/-- A name that cannot be spelled may print the text of two parameters. -/
example : MethodType.descriptor ⟨[.object "a;Lb"], .void⟩ =
    MethodType.descriptor ⟨[.object "a", .object "b"], .void⟩ := by decide

end TypeAtlas
