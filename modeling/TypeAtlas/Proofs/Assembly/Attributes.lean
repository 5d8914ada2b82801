import Mathlib.Algebra.GroupWithZero.Nat
import TypeAtlas.Assembly.Assemble
import TypeAtlas.Proofs.Assembly.Pool

/-!
# Attribute tables survive writing

`Attributes q recognise writers values` says that a reader which recognises some names finds
`values` in the attributes that `writers` write into a class with the pool `q`. Attributes are
added one by one: a recognised one adds the value of its body (`Attributes.recognised`), any other
one nothing (`Attributes.skipped`). The table of all of them is read back whole
(`Attributes.ensures_write`).
-/

set_option autoImplicit false

namespace TypeAtlas.Assembly

open ClassFile (ConstantPool Reader Reads attributeEntry attributeTable readText)
open PoolBuilder

variable {q : PoolBuilder} {α β : Type}

/-! ## Tables -/

/-- A table is read back if its entries are. -/
theorem ensures_writeTable {write : α → Assembler Bytes} {read : Reader β} {entries : List α}
    {values : List β} (hcount : entries.length ≤ 65535)
    (h : List.Forall₂ (fun e v => Ensures q (write e) fun body => Reads body read v)
      entries values) :
    Ensures q (writeTable write entries) fun bytes => Reads bytes (Reader.table read) values := by
  refine (Ensures.mapM h).bind fun bodies => Ensures.pure fun hbodies => ?_
  apply Reads.table hcount
  rw [h.length_eq]
  exact Reads.times hbodies

/-- A table whose entries are read back one by one. -/
theorem ensures_writeTable_map {write : α → Assembler Bytes} {read : Reader β} {g : α → β}
    {entries : List α} (hcount : entries.length ≤ 65535)
    (h : ∀ e ∈ entries, Ensures q (write e) fun body => Reads body read (g e)) :
    Ensures q (writeTable write entries) fun bytes =>
      Reads bytes (Reader.table read) (entries.map g) :=
  ensures_writeTable hcount (List.forall₂_map_right_iff.2 (List.forall₂_same.2 h))

theorem length_flatten_of_forall₂ {size : α → Nat} {bodies : List Bytes} {entries : List α}
    (h : List.Forall₂ (fun body e => body.length = size e) bodies entries) :
    bodies.flatten.length = (entries.map size).sum := by
  induction h with
  | nil => rfl
  | cons hfirst _ ih =>
    rw [List.flatten_cons, List.length_append, hfirst, ih, List.map_cons, List.sum_cons]

/-- A table takes two bytes more than its entries. -/
theorem ensures_length_writeTable {write : α → Assembler Bytes} {size : α → Nat}
    {entries : List α}
    (h : ∀ e ∈ entries, Ensures q (write e) fun body => body.length = size e) :
    Ensures q (writeTable write entries) fun bytes =>
      bytes.length = 2 + (entries.map size).sum := by
  refine (Ensures.mapM (List.forall₂_same.2 h)).bind fun bodies => Ensures.pure fun hbodies => ?_
  rw [List.length_append, length_count16, length_flatten_of_forall₂ hbodies]

theorem length_textAttribute (name : String) (text : Option String) :
    (textAttribute name text).length ≤ 1 := by
  cases text with
  | none => exact Nat.zero_le 1
  | some text => exact Nat.le_refl 1

theorem length_tableAttribute (name : String) (write : α → Assembler Bytes) (entries : List α) :
    (tableAttribute name write entries).length ≤ 1 := by
  unfold tableAttribute
  split
  · exact Nat.zero_le 1
  · exact Nat.le_refl 1

/-! ## Single attributes -/

/-- The name and the length of an attribute lead to its body. -/
theorem reads_attributeEntry {pool : ConstantPool} {recognise : String → Option (Reader α)}
    {a : Attribute} {name : String} {entry : Option α} (hname : pool.getUtf8 a.name = .ok name)
    (hlength : a.body.length < 4294967296)
    (h : ∀ start, Reads [] (match recognise name with
      | some content => do return some (← Reader.lift (Reader.enclosed start a.body content))
      | none => return none : Reader (Option α)) entry) :
    Reads a.write (attributeEntry pool recognise) entry := by
  have hnat : (UInt32.ofNat a.body.length).toNat = a.body.length :=
    UInt32.toNat_ofNat_of_lt' hlength
  -- the reader takes the name, the length and then the body as a whole
  unfold Attribute.write
  rw [List.append_assoc]
  refine (Reads.u2 _).bind ((Reads.u4 _).bind (Reads.get_bind fun cursor => ?_))
  rw [hnat]
  exact (Reads.take _).bind_nil (Reads.lift_bind hname (h _))

/-- Naming an attribute keeps what is known of its body. -/
theorem ensures_named (hq : q.Fits) {w : Assembler Bytes} {P : Bytes → Prop} (name : String)
    (hw : Ensures q w P) :
    Ensures q (named name w) fun a => q.content.getUtf8 a.name = .ok name ∧ P a.body := by
  refine hw.bind fun body => (ensures_utf8 hq name).bind fun index => ?_
  exact Ensures.pure fun hname hbody => ⟨hname.1, hbody⟩

/-! ## Lists of attributes -/

/-- What a list of entries adds to the values: one value, unless it is empty. -/
def listed (entries : List α) (value : β) : List β := if entries.isEmpty then [] else [value]

section Listed

variable {γ : Type} (entries : List α) (value : β)

theorem filterMap_listed (f : β → Option γ) :
    (listed entries value).filterMap f = if entries.isEmpty then [] else (f value).toList := by
  unfold listed
  split
  · rfl
  · cases h : f value with
    | none => rw [List.filterMap_cons_none h, List.filterMap_nil, Option.toList_none]
    | some c => rw [List.filterMap_cons_some h, List.filterMap_nil, Option.toList_some]

theorem flatMap_listed (f : β → List γ) :
    (listed entries value).flatMap f = if entries.isEmpty then [] else f value := by
  unfold listed
  split
  · rfl
  · exact List.flatMap_singleton f value

theorem map_of_isEmpty (g : α → γ) :
    (if entries.isEmpty then [] else entries.map g) = entries.map g := by
  cases entries <;> rfl

end Listed

/-- The entries of a list are found again also where the list has no value. -/
theorem flatten_listed (entries : List α) : (listed entries entries).flatten = entries := by
  cases entries with
  | nil => rfl
  | cons first rest => exact List.flatten_singleton

/-- A reader finds these values in the attributes that are written. -/
def Attributes (q : PoolBuilder) (recognise : String → Option (Reader α))
    (writers : List (Assembler Attribute)) (values : List α) : Prop :=
  ∃ entries : List (Option α), entries.filterMap id = values ∧
    List.Forall₂ (fun w entry => Ensures q w fun a =>
      Reads a.write (attributeEntry q.content recognise) entry) writers entries

namespace Attributes

variable {recognise : String → Option (Reader α)} {writers : List (Assembler Attribute)}
  {values : List α}

theorem nil : Attributes q recognise [] [] := ⟨[], rfl, List.Forall₂.nil⟩

theorem append {others : List (Assembler Attribute)} {further : List α}
    (h : Attributes q recognise writers values) (h' : Attributes q recognise others further) :
    Attributes q recognise (writers ++ others) (values ++ further) := by
  obtain ⟨entries, rfl, hentries⟩ := h
  obtain ⟨entries', rfl, hentries'⟩ := h'
  exact ⟨entries ++ entries', List.filterMap_append, List.rel_append hentries hentries'⟩

/-- The table of the attributes is read back. -/
theorem ensures_write (hcount : writers.length ≤ 65535)
    (h : Attributes q recognise writers values) :
    Ensures q (writeAttributes writers) fun bytes =>
      Reads bytes (attributeTable q.content recognise) values := by
  obtain ⟨entries, rfl, hentries⟩ := h
  have htable : Ensures q (writeAttributes writers) fun bytes =>
      Reads bytes (Reader.table (attributeEntry q.content recognise)) entries :=
    ensures_writeTable hcount (hentries.imp fun w entry hw => hw.map fun a ha => ha)
  exact htable.weaken fun bytes hbytes => hbytes.bind_nil Reads.pure

section Named

variable (hq : q.Fits) {name : String}

include hq

/-- An attribute that is recognised adds the value of its body. -/
theorem recognised {content : Reader α} {value : α} {w : Assembler Bytes}
    (hname : recognise name = some content)
    (hw : Ensures q w fun body => Reads body content value ∧ body.length < 4294967296) :
    Attributes q recognise [named name w] [value] := by
  refine ⟨[some value], rfl, List.Forall₂.cons ?_ List.Forall₂.nil⟩
  refine (ensures_named hq name hw).weaken fun a ha => reads_attributeEntry ha.1 ha.2.2 ?_
  intro start
  rw [hname]
  exact Reads.lift_bind (ClassFile.enclosed_eq_ok ha.2.1 start) Reads.pure

/-- An attribute that is not recognised adds nothing. -/
theorem skipped {w : Assembler Bytes} (hname : recognise name = none)
    (hw : Ensures q w fun body => body.length < 4294967296) :
    Attributes q recognise [named name w] [] := by
  refine ⟨[none], rfl, List.Forall₂.cons ?_ List.Forall₂.nil⟩
  refine (ensures_named hq name hw).weaken fun a ha => reads_attributeEntry ha.1 ha.2 ?_
  intro start
  rw [hname]
  exact Reads.pure

/-- A text is found again. -/
theorem text {f : String → α} (hname : recognise name = some (f <$> readText q.content))
    (text : Option String) :
    Attributes q recognise (textAttribute name text) (text.toList.map f) := by
  cases text with
  | none => exact nil
  | some text =>
    apply recognised hq hname
    refine (ensures_utf8 hq text).map fun index hindex => ⟨(Reads.index hindex.1).map f, ?_⟩
    rw [length_word16]
    decide

/-- The values of a list are found again, unless the list is empty and has no attribute. -/
theorem table {write : β → Assembler Bytes} {γ : Type} {read : Reader γ} {g : β → γ}
    {size : β → Nat} {entries : List β} {f : List γ → α}
    (hname : recognise name = some (f <$> Reader.table read)) (hcount : entries.length ≤ 65535)
    (hsize : 2 + (entries.map size).sum < 4294967296)
    (h : ∀ e ∈ entries, Ensures q (write e) fun body =>
      Reads body read (g e) ∧ body.length = size e) :
    Attributes q recognise (tableAttribute name write entries)
      (listed entries (f (entries.map g))) := by
  unfold tableAttribute listed
  cases hempty : entries.isEmpty with
  | true => exact nil
  | false =>
    have hread := ensures_writeTable_map hcount fun e he => (h e he).weaken fun _ => And.left
    have hlength := ensures_length_writeTable fun e he => (h e he).weaken fun _ => And.right
    refine recognised hq hname ((hread.and hlength).weaken fun body hbody => ?_)
    exact ⟨hbody.1.map f, hbody.2 ▸ hsize⟩

end Named

end Attributes

end TypeAtlas.Assembly
