import TypeAtlas.Assembly.Assemble
import TypeAtlas.Proofs.ClassFile.ScanExact
import TypeAtlas.Proofs.ClassFile.TypedReference
import TypeAtlas.Proofs.ClassFile.Written

/-!
# The order of attributes

An accepted table of attributes is a list of attributes, written one after another
(`exists_of_attributeTable`), and what each of them says depends on its name and its body alone
(`Says`). The values of one name are what the attributes of that name say, in their order
(`forall₂_says_named`). The three places that carry such tables gather the values of different names
into different fields, so a table may be reordered, and attributes with unrecognised names may be
put in, as long as the attributes of each recognised name stay as they are (`OrderInsensitive`).
-/

set_option autoImplicit false

namespace TypeAtlas.ClassFile

open Assembly (Attribute)

/-! ## Lists of values with labels -/

section Labels

variable {α β : Type} {label : α → String} {name : String} {l l' : List α}

/-- What is only found in the entries with one label is found in their sublist. -/
theorem filterMap_congr_of_filter {f : α → Option β} (hlabel : ∀ a, label a ≠ name → f a = none)
    (h : l.filter (label · == name) = l'.filter (label · == name)) :
    l.filterMap f = l'.filterMap f := by
  have hsub : ∀ k : List α, (k.filter (label · == name)).filterMap f = k.filterMap f := by
    intro k
    rw [List.filterMap_filter]
    apply List.filterMap_congr
    intro a _
    by_cases ha : label a = name
    · simp only [ha, beq_self_eq_true, if_true]
    · simp only [beq_iff_eq, ha, if_false, hlabel a ha]
  rw [← hsub l, ← hsub l', h]

theorem flatMap_congr_of_filter {f : α → List β} (hlabel : ∀ a, label a ≠ name → f a = [])
    (h : l.filter (label · == name) = l'.filter (label · == name)) :
    l.flatMap f = l'.flatMap f := by
  have hsub : ∀ k : List α, (k.filter (label · == name)).flatMap f = k.flatMap f := by
    intro k
    induction k with
    | nil => rfl
    | cons a k ih =>
      by_cases ha : label a = name
      · simp only [List.filter_cons, ha, beq_self_eq_true, if_true, List.flatMap_cons, ih]
      · simp only [List.filter_cons, beq_iff_eq, ha, if_false, List.flatMap_cons, hlabel a ha, ih,
          List.nil_append]
  rw [← hsub l, ← hsub l', h]

end Labels

/-- A table of attributes is read by name: the reader of a name returns values with that name as
their label, wherever their bodies stand, and the values of different names are gathered apart. -/
structure ReadByName {α β : Type} (recognise : String → Option (Reader α)) (label : α → String)
    (gather : List α → β) : Prop where
  anchored : ∀ name content, recognise name = some content → Anchored content
  labelled : ∀ name content, recognise name = some content →
    Yields (fun value => label value = name) content
  gather_congr : ∀ l l' : List α,
    (∀ name, l.filter (label · == name) = l'.filter (label · == name)) → gather l = gather l'

/-! ## Attributes as they are written -/

/-- The bytes of a table of attributes. -/
def tableBytes (attributes : List Attribute) : Bytes :=
  count16 attributes.length ++ attributes.flatMap Attribute.write

/-- The number of attributes fits into two bytes, and the length of each body into four. -/
structure Fitting (attributes : List Attribute) : Prop where
  count : attributes.length ≤ 65535
  bodies : ∀ a ∈ attributes, a.body.length < 4294967296

/-- Whether an attribute has a name. -/
def named (pool : ConstantPool) (name : String) (a : Attribute) : Bool :=
  match pool.getUtf8 a.name with
  | .ok text => text == name
  | .error _ => false

theorem named_iff {pool : ConstantPool} {name : String} {a : Attribute} :
    named pool name a = true ↔ pool.getUtf8 a.name = .ok name := by
  unfold named
  cases pool.getUtf8 a.name with
  | error fault => simp only [Bool.false_eq_true, reduceCtorEq]
  | ok text => simp only [beq_iff_eq, Except.ok.injEq]

/-- A table is read entry by entry. -/
theorem reads_table {γ : Type} {item : Reader γ} {attributes : List Attribute} {values : List γ}
    (hcount : attributes.length ≤ 65535)
    (h : List.Forall₂ (fun a value => Reads a.write item value) attributes values) :
    Reads (tableBytes attributes) (Reader.table item) values := by
  have htimes := Reads.times (List.forall₂_map_left_iff.2 h)
  rw [← h.length_eq] at htimes
  exact Reads.table hcount htimes

/-- Reads an attribute as it is written, whatever its name and its body. -/
def rawAttribute : Reader Attribute := do
  let name ← Reader.u2
  let length ← Reader.u4
  return ⟨name, ← Reader.take length.toNat⟩

theorem reads_rawAttribute {a : Attribute} (h : a.body.length < 4294967296) :
    Reads a.write rawAttribute a := by
  have hlength : (UInt32.ofNat a.body.length).toNat = a.body.length := UInt32.toNat_ofNat_of_lt' h
  rw [Attribute.write, List.append_assoc]
  refine (Reads.u2 _).bind ((Reads.u4 _).bind ?_)
  rw [hlength]
  exact (Reads.take a.body).bind_nil Reads.pure

/-- The bytes at the front of an input are those of one table only. -/
theorem tableBytes_append_inj {attributes others : List Attribute} {rest rest' : Bytes}
    (hfit : Fitting attributes) (hfit' : Fitting others)
    (h : tableBytes attributes ++ rest = tableBytes others ++ rest') :
    attributes = others ∧ rest = rest' := by
  have hraw : ∀ {as : List Attribute}, Fitting as →
      Reads (tableBytes as) (Reader.table rawAttribute) as := fun hfit =>
    reads_table hfit.count (List.forall₂_same.2 fun a ha => reads_rawAttribute (hfit.bodies a ha))
  have hrun := hraw hfit 0 rest
  rw [h, hraw hfit' 0 rest'] at hrun
  cases hrun
  exact ⟨rfl, rfl⟩

section Tables

variable {α β : Type} {pool : ConstantPool} {recognise : String → Option (Reader α)}
  {label : α → String} {gather : List α → β}

/-- What an attribute says: the value in its body if its name is recognised, and else nothing. -/
def Says (pool : ConstantPool) (recognise : String → Option (Reader α)) (a : Attribute)
    (entry : Option α) : Prop :=
  attributeBody pool recognise a.name 0 a.body = .ok entry

theorem Says.unique {a : Attribute} {entry entry' : Option α} (h : Says pool recognise a entry)
    (h' : Says pool recognise a entry') : entry = entry' :=
  Except.ok.inj (h.symm.trans h')

section Entries

variable (hanchored : ∀ name content, recognise name = some content → Anchored content)
include hanchored

/-- What an attribute says does not depend on where its body starts. -/
theorem says_iff {a : Attribute} {entry : Option α} (start : Nat) :
    Says pool recognise a entry ↔ attributeBody pool recognise a.name start a.body = .ok entry := by
  have hbody : AnchoredBody (attributeBody pool recognise a.name) :=
    AnchoredBody.attributeBody hanchored a.name
  have hshift := hbody.shift start 0 a.body
  rw [Nat.add_zero] at hshift
  rw [hshift, Says]
  cases attributeBody pool recognise a.name 0 a.body with
  | error fault =>
    constructor
    · intro h
      cases h
    · intro h
      cases h
  | ok value => exact Iff.rfl

theorem Says.reads {a : Attribute} {entry : Option α} (h : Says pool recognise a entry)
    (hbody : a.body.length < 4294967296) :
    Reads a.write (attributeEntry pool recognise) entry := by
  have hlength : (UInt32.ofNat a.body.length).toNat = a.body.length :=
    UInt32.toNat_ofNat_of_lt' hbody
  rw [attributeEntry_eq, Attribute.write, List.append_assoc]
  refine (Reads.u2 _).bind ((Reads.u4 _).bind (Reads.get_bind fun cursor => ?_))
  rw [hlength]
  exact (Reads.take _).bind_nil (Reads.lift ((says_iff hanchored _).1 h))

theorem exists_of_attributeEntry {c c' : Cursor} {entry : Option α}
    (h : attributeEntry pool recognise c = .ok (entry, c')) :
    ∃ a : Attribute, (a.body.length < 4294967296 ∧ Says pool recognise a entry) ∧
      c.bytes = a.write ++ c'.bytes := by
  rw [attributeEntry_eq] at h
  rcases bind_eq_ok_iff.1 h with ⟨⟨name, c₁⟩, hname, h⟩
  rcases bind_eq_ok_iff.1 h with ⟨⟨length, c₂⟩, hlength, h⟩
  rcases bind_eq_ok_iff.1 h with ⟨⟨body, c₃⟩, htake, h⟩
  rcases lift_eq_ok_iff.1 h with ⟨hsaid, rfl⟩
  rcases take_eq_ok htake with ⟨hbytes, hbody, -⟩
  have hword : count32 body.length = word32 length := by
    rw [count32, hbody, UInt32.ofNat_toNat]
  refine ⟨⟨name, body⟩, ⟨?_, (says_iff hanchored _).2 hsaid⟩, ?_⟩
  · rw [hbody]
    exact length.toNat_lt
  · rw [Attribute.write, hword, u2_eq_ok hname, List.append_assoc, List.append_assoc]
    have hbehind := (u4_eq_ok hlength).trans (congrArg (word32 length ++ ·) hbytes)
    exact congrArg (word16 name ++ ·) hbehind

/-- A table is read back if each of its attributes says something. -/
theorem reads_tableBytes {attributes : List Attribute} {entries : List (Option α)}
    (hfit : Fitting attributes) (h : List.Forall₂ (Says pool recognise) attributes entries) :
    Reads (tableBytes attributes) (attributeTable pool recognise) (entries.filterMap id) := by
  have hentries : List.Forall₂ (fun a entry => Reads a.write (attributeEntry pool recognise) entry)
      attributes entries :=
    ((List.forall₂_and_left _ _).2 ⟨hfit.bodies, h⟩).imp fun a entry h => h.2.reads hanchored h.1
  exact (reads_table hfit.count hentries).bind_nil Reads.pure

/-- Every accepted table is one of attributes that say something. -/
theorem exists_of_attributeTable {c c' : Cursor} {values : List α}
    (h : attributeTable pool recognise c = .ok (values, c')) :
    ∃ attributes entries, Fitting attributes ∧
      List.Forall₂ (Says pool recognise) attributes entries ∧ entries.filterMap id = values ∧
      c.bytes = tableBytes attributes ++ c'.bytes := by
  rcases bind_eq_ok_iff.1 h with ⟨⟨entries, c₁⟩, htable, h⟩
  cases h
  rcases exists_of_table (fun _ _ _ => exists_of_attributeEntry hanchored) htable with
    ⟨attributes, hentries, hcount, hbytes⟩
  rcases (List.forall₂_and_left _ _).1 hentries with ⟨hbodies, hsaid⟩
  exact ⟨attributes, entries, ⟨hcount, hbodies⟩, hsaid, rfl, hbytes⟩

end Entries

/-! ## Attributes of one name -/

section Named

variable {attributes others : List Attribute} {entries entries' : List (Option α)}

/-- An attribute has a name, and says something exactly if the name is recognised. What it says is
labelled with the name. -/
theorem says_cases (hread : ReadByName recognise label gather) {a : Attribute} {entry : Option α}
    (h : Says pool recognise a entry) :
    ∃ name, pool.getUtf8 a.name = .ok name ∧
      ((recognise name = none ∧ entry = none) ∨
        ∃ value, entry = some value ∧ label value = name ∧ recognise name ≠ none) := by
  rcases bind_eq_ok_iff.1 h with ⟨name, hname, h⟩
  refine ⟨name, hname, ?_⟩
  cases hcontent : recognise name with
  | none =>
    rw [hcontent] at h
    cases h
    exact Or.inl ⟨rfl, rfl⟩
  | some content =>
    rw [hcontent] at h
    rcases map_eq_ok_iff.1 h with ⟨value, hvalue, rfl⟩
    rcases bind_eq_ok_iff.1 hvalue with ⟨⟨result, rest⟩, hrun, hvalue⟩
    rcases bind_eq_ok_iff.1 hvalue with ⟨_, -, hvalue⟩
    cases hvalue
    have hlabel := hread.labelled name content hcontent _ _ _ hrun
    exact Or.inr ⟨value, rfl, hlabel, Option.some_ne_none content⟩

/-- The values with a recognised label are what the attributes of that name say, in their order. -/
theorem forall₂_says_named (hread : ReadByName recognise label gather) {name : String}
    (hname : recognise name ≠ none) (h : List.Forall₂ (Says pool recognise) attributes entries) :
    List.Forall₂ (Says pool recognise) (attributes.filter (named pool name))
      (((entries.filterMap id).filter (label · == name)).map some) := by
  induction h with
  | nil => exact .nil
  | @cons a entry attributes entries hsaid _ ih =>
    rcases says_cases hread hsaid with ⟨own, hown, ⟨hskipped, rfl⟩ | ⟨value, rfl, hlabel, -⟩⟩
    · -- the attribute is skipped, so its name is not the recognised one
      have hother : ¬ named pool name a = true := by
        intro hnamed
        rw [named_iff, hown] at hnamed
        cases hnamed
        exact hname hskipped
      rw [List.filter_cons_of_neg hother, List.filterMap_cons_none rfl]
      exact ih
    · rw [List.filterMap_cons_some (f := id) rfl]
      by_cases hsame : own = name
      · have hnamed : named pool name a = true := by rw [named_iff, hown, hsame]
        rw [List.filter_cons_of_pos hnamed,
          List.filter_cons_of_pos (p := (label · == name)) (beq_iff_eq.2 (hlabel.trans hsame)),
          List.map_cons]
        exact .cons hsaid ih
      · have hother : ¬ named pool name a = true := by
          intro hnamed
          rw [named_iff, hown] at hnamed
          cases hnamed
          exact hsame rfl
        have hvalue : ¬ (label value == name) = true := by
          rw [beq_iff_eq, hlabel]
          exact hsame
        rw [List.filter_cons_of_neg hother, List.filter_cons_of_neg (p := (label · == name)) hvalue]
        exact ih

/-- Attributes that agree in each recognised name have values that agree in each label. -/
theorem filter_label_eq (hread : ReadByName recognise label gather)
    (h : List.Forall₂ (Says pool recognise) attributes entries)
    (h' : List.Forall₂ (Says pool recognise) others entries')
    (hsame : ∀ name, recognise name ≠ none →
      others.filter (named pool name) = attributes.filter (named pool name)) (name : String) :
    (entries'.filterMap id).filter (label · == name) =
      (entries.filterMap id).filter (label · == name) := by
  have hnone : ∀ {as : List Attribute} {es : List (Option α)},
      List.Forall₂ (Says pool recognise) as es → recognise name = none →
      (es.filterMap id).filter (label · == name) = [] := by
    intro as es hsaid hskipped
    rw [List.filter_eq_nil_iff]
    intro value hvalue hlabel
    rcases List.mem_filterMap.1 hvalue with ⟨entry, hentry, rfl⟩
    rcases List.mem_iff_getElem.1 hentry with ⟨i, hi, hget⟩
    have hown := List.Forall₂.get hsaid (hsaid.length_eq ▸ hi) hi
    rw [List.get_eq_getElem, List.get_eq_getElem, hget] at hown
    rcases says_cases hread hown with ⟨own, -, ⟨-, hentry⟩ | ⟨value', hvalue', hown, hmem⟩⟩
    · cases hentry
    · cases hvalue'
      rw [beq_iff_eq, hown] at hlabel
      exact hmem (hlabel ▸ hskipped)
  by_cases hname : recognise name = none
  · rw [hnone h hname, hnone h' hname]
  · have hvalues := forall₂_says_named hread hname h
    have hvalues' := forall₂_says_named hread hname h'
    rw [hsame name hname] at hvalues'
    have hunique : Relator.RightUnique (Says pool recognise) := fun _ _ _ => Says.unique
    exact List.map_injective_iff.2 (fun _ _ => Option.some.inj)
      (List.right_unique_forall₂' hunique hvalues' hvalues)

/-- Attributes that agree in each recognised name with ones that are accepted are accepted, and say
the same. -/
theorem exists_says_of_sameNamed (hread : ReadByName recognise label gather)
    (h : List.Forall₂ (Says pool recognise) attributes entries)
    (hnames : ∀ a ∈ others, ∃ name, pool.getUtf8 a.name = .ok name)
    (hsame : ∀ name, recognise name ≠ none →
      others.filter (named pool name) = attributes.filter (named pool name)) :
    ∃ entries', List.Forall₂ (Says pool recognise) others entries' ∧
      gather (entries'.filterMap id) = gather (entries.filterMap id) := by
  have hsaid : ∀ a ∈ others, ∃ entry, Says pool recognise a entry := by
    intro a ha
    rcases hnames a ha with ⟨name, hname⟩
    cases hcontent : recognise name with
    | none =>
      refine ⟨none, ?_⟩
      rw [Says, attributeBody_of_skipped hname hcontent]
    | some content =>
      -- a recognised attribute is among those that are accepted
      have hrecognised : recognise name ≠ none := hcontent ▸ Option.some_ne_none content
      have hmem : a ∈ attributes.filter (named pool name) := by
        rw [← hsame name hrecognised]
        exact List.mem_filter.2 ⟨ha, named_iff.2 hname⟩
      rcases List.mem_iff_getElem.1 (List.mem_filter.1 hmem).1 with ⟨i, hi, rfl⟩
      exact ⟨_, List.Forall₂.get h hi (h.length_eq ▸ hi)⟩
  rcases exists_forall₂_iff.2 hsaid with ⟨entries', h'⟩
  exact ⟨entries', h', hread.gather_congr _ _ (filter_label_eq hread h h' hsame)⟩

end Named

end Tables

/-! ## Tables that may be reordered -/

/-- How a reader of attribute tables treats their order, given the names that it recognises: it
accepts tables of attributes only, and accepts a table with the same result if attributes with other
names are put in, if two adjacent attributes of different names change places, and more generally as
long as the attributes of each recognised name stay in their order. -/
structure OrderInsensitive {β : Type} (pool : ConstantPool) (names : List String)
    (read : Reader β) : Prop where
  written : ∀ {c c' : Cursor} {summary : β}, read c = .ok (summary, c') →
    ∃ attributes, Fitting attributes ∧ c.bytes = tableBytes attributes ++ c'.bytes ∧
      Reads (tableBytes attributes) read summary
  insert : ∀ {before after : List Attribute} {new : Attribute} {name : String} {summary : β},
    Fitting (before ++ after) → Reads (tableBytes (before ++ after)) read summary →
    pool.getUtf8 new.name = .ok name → name ∉ names → new.body.length < 4294967296 →
    (before ++ after).length + 1 ≤ 65535 → Reads (tableBytes (before ++ new :: after)) read summary
  exchange : ∀ {before after : List Attribute} {first second : Attribute} {summary : β},
    Fitting (before ++ first :: second :: after) →
    Reads (tableBytes (before ++ first :: second :: after)) read summary →
    pool.getUtf8 first.name ≠ pool.getUtf8 second.name →
    Reads (tableBytes (before ++ second :: first :: after)) read summary
  reorder : ∀ {attributes others : List Attribute} {summary : β}, Fitting attributes →
    Reads (tableBytes attributes) read summary → Fitting others →
    (∀ a ∈ others, ∃ name, pool.getUtf8 a.name = .ok name) →
    (∀ name ∈ names, others.filter (named pool name) = attributes.filter (named pool name)) →
    Reads (tableBytes others) read summary

section OrderInsensitive

variable {α β : Type} {pool : ConstantPool} {recognise : String → Option (Reader α)}
  {label : α → String} {gather : List α → β} {names : List String}

/-- A table that is read by name is accepted exactly if its attributes all say something. -/
theorem exists_says_of_reads (hread : ReadByName recognise label gather)
    {attributes : List Attribute} {summary : β} (hfit : Fitting attributes)
    (h : Reads (tableBytes attributes) (gather <$> attributeTable pool recognise) summary) :
    ∃ entries, List.Forall₂ (Says pool recognise) attributes entries ∧
      gather (entries.filterMap id) = summary := by
  rcases map_run_eq_ok_iff.1 (h 0 []) with ⟨values, hrun, hsummary⟩
  rcases exists_of_attributeTable hread.anchored hrun with
    ⟨others, entries, hfit', hsaid, rfl, hbytes⟩
  rcases tableBytes_append_inj hfit hfit' hbytes with ⟨rfl, -⟩
  exact ⟨entries, hsaid, hsummary⟩

theorem reads_gather (hread : ReadByName recognise label gather) {attributes : List Attribute}
    {entries : List (Option α)} (hfit : Fitting attributes)
    (h : List.Forall₂ (Says pool recognise) attributes entries) :
    Reads (tableBytes attributes) (gather <$> attributeTable pool recognise)
      (gather (entries.filterMap id)) :=
  (reads_tableBytes hread.anchored hfit h).map gather

/-- Putting in an attribute of another name keeps those of a name. -/
theorem filter_named_insert {before after : List Attribute} {new : Attribute} {name own : String}
    (hown : pool.getUtf8 new.name = .ok own) (hne : own ≠ name) :
    (before ++ new :: after).filter (named pool name) =
      (before ++ after).filter (named pool name) := by
  have hother : ¬ named pool name new = true := by
    intro hnamed
    rw [named_iff, hown] at hnamed
    exact hne (Except.ok.inj hnamed)
  rw [List.filter_append, List.filter_cons_of_neg hother, ← List.filter_append]

/-- Exchanging two attributes of different names keeps those of each name. -/
theorem filter_named_exchange {before after : List Attribute} {first second : Attribute}
    (hne : pool.getUtf8 first.name ≠ pool.getUtf8 second.name) (name : String) :
    (before ++ second :: first :: after).filter (named pool name) =
      (before ++ first :: second :: after).filter (named pool name) := by
  rw [List.filter_append, List.filter_append]
  by_cases hfirst : named pool name first = true
  · have hsecond : ¬ named pool name second = true := by
      intro hnamed
      exact hne ((named_iff.1 hfirst).trans (named_iff.1 hnamed).symm)
    rw [List.filter_cons_of_neg hsecond, List.filter_cons_of_pos hfirst,
      List.filter_cons_of_pos hfirst, List.filter_cons_of_neg hsecond]
  · simp only [List.filter_cons, hfirst, Bool.false_eq_true, if_false]

/-- A table that is read by name may be reordered. -/
theorem orderInsensitive_of_readByName (hread : ReadByName recognise label gather)
    (hnames : ∀ name, recognise name ≠ none ↔ name ∈ names) :
    OrderInsensitive pool names (gather <$> attributeTable pool recognise) := by
  have hreorder : ∀ {attributes others : List Attribute} {summary : β}, Fitting attributes →
      Reads (tableBytes attributes) (gather <$> attributeTable pool recognise) summary →
      Fitting others → (∀ a ∈ others, ∃ name, pool.getUtf8 a.name = .ok name) →
      (∀ name ∈ names, others.filter (named pool name) = attributes.filter (named pool name)) →
      Reads (tableBytes others) (gather <$> attributeTable pool recognise) summary := by
    intro attributes others summary hfit h hfit' hutf8 hsame
    rcases exists_says_of_reads hread hfit h with ⟨entries, hsaid, rfl⟩
    rcases exists_says_of_sameNamed hread hsaid hutf8 fun name hname =>
      hsame name ((hnames name).1 hname) with ⟨entries', hsaid', hgather⟩
    rw [← hgather]
    exact reads_gather hread hfit' hsaid'
  have hutf8 : ∀ {attributes : List Attribute} {summary : β}, Fitting attributes →
      Reads (tableBytes attributes) (gather <$> attributeTable pool recognise) summary →
      ∀ a ∈ attributes, ∃ name, pool.getUtf8 a.name = .ok name := by
    intro attributes summary hfit h a ha
    rcases exists_says_of_reads hread hfit h with ⟨entries, hsaid, -⟩
    rcases List.mem_iff_getElem.1 ha with ⟨i, hi, rfl⟩
    rcases says_cases hread (List.Forall₂.get hsaid hi (hsaid.length_eq ▸ hi)) with ⟨name, hname, -⟩
    exact ⟨name, hname⟩
  constructor
  · intro c c' summary h
    rcases map_run_eq_ok_iff.1 h with ⟨values, hrun, rfl⟩
    rcases exists_of_attributeTable hread.anchored hrun with
      ⟨attributes, entries, hfit, hsaid, rfl, hbytes⟩
    exact ⟨attributes, hfit, hbytes, reads_gather hread hfit hsaid⟩
  · intro before after new name summary hfit h hname hother hbody hcount
    have hmem : ∀ {P : Attribute → Prop}, P new → (∀ a ∈ before ++ after, P a) →
        ∀ a ∈ before ++ new :: after, P a := by
      intro P hnew hold a ha
      rcases List.mem_append.1 ha with ha | ha
      · exact hold a (List.mem_append_left after ha)
      · rcases List.mem_cons.1 ha with rfl | ha
        · exact hnew
        · exact hold a (List.mem_append_right before ha)
    refine hreorder hfit h ⟨?_, hmem hbody hfit.bodies⟩ (hmem ⟨name, hname⟩ (hutf8 hfit h)) ?_
    · rw [List.length_append, List.length_cons, ← Nat.add_assoc, ← List.length_append]
      exact hcount
    · intro known hknown
      exact filter_named_insert hname fun heq => hother (heq ▸ hknown)
  · intro before after first second summary hfit h hne
    have hmem : ∀ a, a ∈ before ++ second :: first :: after ↔
        a ∈ before ++ first :: second :: after := by
      intro a
      exact (List.Perm.append_left before (List.Perm.swap first second after)).mem_iff
    refine hreorder hfit h ⟨?_, ?_⟩ ?_ fun name _ => filter_named_exchange hne name
    · have hcount := hfit.count
      rw [List.length_append, List.length_cons, List.length_cons] at hcount ⊢
      exact hcount
    · intro a ha
      exact hfit.bodies a ((hmem a).1 ha)
    · intro a ha
      exact hutf8 hfit h a ((hmem a).1 ha)
  · exact hreorder

end OrderInsensitive

/-! ## The three places -/

/-- The name of an attribute of a field or a method. -/
def MemberAttribute.name : MemberAttribute → String
  | .signature _ => "Signature"
  | .visible _ => "RuntimeVisibleAnnotations"
  | .invisible _ => "RuntimeInvisibleAnnotations"
  | .exceptions _ => "Exceptions"
  | .code _ => "Code"

/-- The name of an attribute of a class. -/
def ClassAttribute.name : ClassAttribute → String
  | .signature _ => "Signature"
  | .sourceFile _ => "SourceFile"
  | .visible _ => "RuntimeVisibleAnnotations"
  | .invisible _ => "RuntimeInvisibleAnnotations"
  | .innerClasses _ => "InnerClasses"
  | .enclosingMethod _ => "EnclosingMethod"

/-- What is made of a value has the label of the value. -/
theorem yields_map_label {α β : Type} {reader : Reader α} {f : α → β} {P : β → Prop}
    (h : ∀ value, P (f value)) : Yields P (f <$> reader) :=
  Yields.map (P := fun _ => True) (fun _ _ _ _ => trivial) fun value _ => h value

/-- Each field that attributes of members are gathered into takes those of one name only. -/
theorem MemberAttribute.silent (a : MemberAttribute) :
    (a.name ≠ "Signature" → a.signature? = none) ∧
    (a.name ≠ "RuntimeVisibleAnnotations" → a.visibles = []) ∧
    (a.name ≠ "RuntimeInvisibleAnnotations" → a.invisibles = []) ∧
    (a.name ≠ "Exceptions" → a.exceptionNames = []) ∧
    (a.name ≠ "Code" → a.code? = none) := by
  cases a <;> simp [name, signature?, visibles, invisibles, exceptionNames, code?]

theorem MemberAttribute.gather_congr {l l' : List MemberAttribute}
    (h : ∀ name, l.filter (MemberAttribute.name · == name) =
      l'.filter (MemberAttribute.name · == name)) : gather l = gather l' := by
  have hsignature := filterMap_congr_of_filter (fun a => (silent a).1) (h _)
  have hvisible := flatMap_congr_of_filter (fun a => (silent a).2.1) (h _)
  have hinvisible := flatMap_congr_of_filter (fun a => (silent a).2.2.1) (h _)
  have hexceptions := flatMap_congr_of_filter (fun a => (silent a).2.2.2.1) (h _)
  have hcode := filterMap_congr_of_filter (fun a => (silent a).2.2.2.2) (h _)
  rw [gather, gather, hsignature, hvisible, hinvisible, hexceptions, hcode]

/-- Each field that attributes of classes are gathered into takes those of one name only. -/
theorem ClassAttribute.silent (a : ClassAttribute) :
    (a.name ≠ "Signature" → a.signature? = none) ∧
    (a.name ≠ "SourceFile" → a.sourceFile? = none) ∧
    (a.name ≠ "RuntimeVisibleAnnotations" → a.visibles = []) ∧
    (a.name ≠ "RuntimeInvisibleAnnotations" → a.invisibles = []) ∧
    (a.name ≠ "InnerClasses" → a.innerClassEntries = []) ∧
    (a.name ≠ "EnclosingMethod" → a.enclosingMethod? = none) := by
  cases a <;>
    simp [name, signature?, sourceFile?, visibles, invisibles, innerClassEntries, enclosingMethod?]

theorem ClassAttribute.gather_congr {l l' : List ClassAttribute}
    (h : ∀ name, l.filter (ClassAttribute.name · == name) =
      l'.filter (ClassAttribute.name · == name)) : gather l = gather l' := by
  have hsignature := filterMap_congr_of_filter (fun a => (silent a).1) (h _)
  have hsourceFile := filterMap_congr_of_filter (fun a => (silent a).2.1) (h _)
  have hvisible := flatMap_congr_of_filter (fun a => (silent a).2.2.1) (h _)
  have hinvisible := flatMap_congr_of_filter (fun a => (silent a).2.2.2.1) (h _)
  have hinnerClasses := flatMap_congr_of_filter (fun a => (silent a).2.2.2.2.1) (h _)
  have henclosing := filterMap_congr_of_filter (fun a => (silent a).2.2.2.2.2) (h _)
  rw [gather, gather, hsignature, hsourceFile, hvisible, hinvisible, hinnerClasses, henclosing]

theorem readByName_member (pool : ConstantPool) :
    ReadByName (memberAttribute pool) MemberAttribute.name MemberAttribute.gather where
  anchored _ _ := anchored_memberAttribute
  labelled name content h := by
    unfold memberAttribute at h
    split at h
    · exact Option.some.inj h ▸ yields_map_label fun _ => rfl
    · exact Option.some.inj h ▸ yields_map_label fun _ => rfl
    · exact Option.some.inj h ▸ yields_map_label fun _ => rfl
    · exact Option.some.inj h ▸ yields_map_label fun _ => rfl
    · exact Option.some.inj h ▸ yields_map_label fun _ => rfl
    · cases h
  gather_congr _ _ := MemberAttribute.gather_congr

theorem readByName_class (pool : ConstantPool) :
    ReadByName (classAttribute pool) ClassAttribute.name ClassAttribute.gather where
  anchored _ _ := anchored_classAttribute
  labelled name content h := by
    unfold classAttribute at h
    split at h
    · exact Option.some.inj h ▸ yields_map_label fun _ => rfl
    · exact Option.some.inj h ▸ yields_map_label fun _ => rfl
    · exact Option.some.inj h ▸ yields_map_label fun _ => rfl
    · exact Option.some.inj h ▸ yields_map_label fun _ => rfl
    · exact Option.some.inj h ▸ yields_map_label fun _ => rfl
    · exact Option.some.inj h ▸ yields_map_label fun _ => rfl
    · cases h
  gather_congr _ _ := ClassAttribute.gather_congr

/-- A code body recognises one name only. -/
theorem readByName_code :
    ReadByName codeAttribute (fun _ => "LineNumberTable") List.flatten where
  anchored _ _ := anchored_codeAttribute
  labelled name content h := by
    unfold codeAttribute at h
    split at h
    · exact fun _ _ _ _ => rfl
    · cases h
  gather_congr l l' h := by
    have hall := h "LineNumberTable"
    simp only [beq_self_eq_true, List.filter_true] at hall
    rw [hall]

/-- The places in a class file that carry a table of attributes. -/
inductive AttributePlace where
  | ofClass | ofMember | ofCode
  deriving DecidableEq, Repr

namespace AttributePlace

/-- What the attributes of a place are gathered into. -/
def Summary : AttributePlace → Type
  | .ofClass => ClassAttributes
  | .ofMember => MemberAttributes
  | .ofCode => List LineNumber

/-- Reads the table of attributes of a place. -/
def read (pool : ConstantPool) : (place : AttributePlace) → Reader place.Summary
  | .ofClass => ClassAttribute.gather <$> attributeTable pool (classAttribute pool)
  | .ofMember => MemberAttribute.gather <$> attributeTable pool (memberAttribute pool)
  | .ofCode => List.flatten <$> attributeTable pool codeAttribute

/-- The names that are recognised in a place. -/
def names : AttributePlace → List String
  | .ofClass => ["Signature", "SourceFile", "RuntimeVisibleAnnotations",
      "RuntimeInvisibleAnnotations", "InnerClasses", "EnclosingMethod"]
  | .ofMember => ["Signature", "RuntimeVisibleAnnotations", "RuntimeInvisibleAnnotations",
      "Exceptions", "Code"]
  | .ofCode => ["LineNumberTable"]

theorem classAttribute_ne_none_iff {pool : ConstantPool} {name : String} :
    classAttribute pool name ≠ none ↔ name ∈ names .ofClass := by
  unfold classAttribute
  split <;> simp_all [names]

theorem memberAttribute_ne_none_iff {pool : ConstantPool} {name : String} :
    memberAttribute pool name ≠ none ↔ name ∈ names .ofMember := by
  unfold memberAttribute
  split <;> simp_all [names]

theorem codeAttribute_ne_none_iff {name : String} :
    codeAttribute name ≠ none ↔ name ∈ names .ofCode := by
  unfold codeAttribute
  split <;> simp_all [names]

end AttributePlace

/-! ### The readers of the three places -/

theorem readClassAttributes_eq (pool : ConstantPool) :
    readClassAttributes pool = (do
      let attributes : ClassAttributes ← AttributePlace.ofClass.read pool
      Reader.expectEnd
      return attributes) := by
  show _ = (ClassAttribute.gather <$> attributeTable pool (classAttribute pool) >>= fun _ => _)
  rw [bind_map_left]
  rfl

theorem readMember_eq {τ : Type} (pool : ConstantPool) (parseType : String → Except Fault τ) :
    readMember pool parseType = (do
      let flags ← Reader.u2
      let name ← readText pool
      let descriptor ← readText pool
      let type ← Reader.lift (parseType descriptor)
      let attributes : MemberAttributes ← AttributePlace.ofMember.read pool
      return {
        flags
        name
        descriptor
        type
        signature := attributes.signature
        visible := attributes.visible
        invisible := attributes.invisible
        exceptions := attributes.exceptions
        code := attributes.code }) := by
  refine bind_congr fun flags => bind_congr fun name => bind_congr fun descriptor =>
    bind_congr fun type => ?_
  show _ = (MemberAttribute.gather <$> attributeTable pool (memberAttribute pool) >>= fun _ => _)
  rw [bind_map_left]

theorem readCode_eq (pool : ConstantPool) :
    readCode pool = (do
      let maxStack ← Reader.u2
      let maxLocals ← Reader.u2
      let length ← Reader.u4
      let code ← Reader.take length.toNat
      let handlers ← Reader.u2
      let _ ← Reader.take (handlers.toNat * 8)
      let lines : List LineNumber ← AttributePlace.ofCode.read pool
      let references ← Reader.lift (scanReferences pool lines code)
      return ⟨maxStack, maxLocals, lines, references⟩) := by
  refine bind_congr fun maxStack => bind_congr fun maxLocals => bind_congr fun length => ?_
  refine bind_congr fun code => bind_congr fun handlers => bind_congr fun _ => ?_
  show _ = (List.flatten <$> attributeTable pool codeAttribute >>= fun _ => _)
  rw [bind_map_left]

/-- In each of the three places, the result of reading a table of attributes depends only on the
relative order of the attributes of the same recognised name: all other attributes may be put in
anywhere. -/
theorem orderInsensitive_read (pool : ConstantPool) (place : AttributePlace) :
    OrderInsensitive pool place.names (place.read pool) := by
  cases place with
  | ofClass =>
    exact orderInsensitive_of_readByName (readByName_class pool) fun _ =>
      AttributePlace.classAttribute_ne_none_iff
  | ofMember =>
    exact orderInsensitive_of_readByName (readByName_member pool) fun _ =>
      AttributePlace.memberAttribute_ne_none_iff
  | ofCode =>
    exact orderInsensitive_of_readByName readByName_code fun _ =>
      AttributePlace.codeAttribute_ne_none_iff

/-- A pool with the names of three attributes and a text. -/
def attributePool : ConstantPool :=
  ⟨#[none, some (.utf8 "Signature"), some (.utf8 "SourceFile"), some (.utf8 "LineNumberTable"),
    some (.utf8 "A")]⟩

/-- The signature and the source file of a class. -/
def signedAttributes : List Attribute := [⟨1, [0, 4]⟩, ⟨2, [0, 4]⟩]

theorem fitting_signedAttributes : Fitting signedAttributes := by
  constructor <;> decide

theorem reads_signedAttributes :
    Reads (tableBytes signedAttributes) (AttributePlace.ofClass.read attributePool)
      (ClassAttribute.gather [.signature "A", .sourceFile "A"]) := by
  have hsaid : List.Forall₂ (Says attributePool (classAttribute attributePool)) signedAttributes
      [some (.signature "A"), some (.sourceFile "A")] := .cons rfl (.cons rfl .nil)
  exact reads_gather (readByName_class attributePool) fitting_signedAttributes hsaid

/-- A line table means nothing in a class, so its body may be anything, and the two attributes that
mean something may change places. -/
theorem orderInsensitive_read_signed :
    Reads (tableBytes [⟨1, [0, 4]⟩, ⟨3, [7]⟩, ⟨2, [0, 4]⟩])
        (AttributePlace.ofClass.read attributePool)
        (ClassAttribute.gather [.signature "A", .sourceFile "A"]) ∧
      Reads (tableBytes [⟨2, [0, 4]⟩, ⟨1, [0, 4]⟩]) (AttributePlace.ofClass.read attributePool)
        (ClassAttribute.gather [.signature "A", .sourceFile "A"]) := by
  have hread := orderInsensitive_read attributePool .ofClass
  have hne : attributePool.getUtf8 1 ≠ attributePool.getUtf8 2 := by decide
  have hinserted : Reads (tableBytes ([⟨1, [0, 4]⟩] ++ ⟨3, [7]⟩ :: [⟨2, [0, 4]⟩]))
      (AttributePlace.ofClass.read attributePool)
      (ClassAttribute.gather [.signature "A", .sourceFile "A"]) :=
    hread.insert fitting_signedAttributes reads_signedAttributes rfl (by decide) (by decide)
      (by decide)
  have hexchanged : Reads (tableBytes ([] ++ ⟨2, [0, 4]⟩ :: ⟨1, [0, 4]⟩ :: []))
      (AttributePlace.ofClass.read attributePool)
      (ClassAttribute.gather [.signature "A", .sourceFile "A"]) :=
    hread.exchange fitting_signedAttributes reads_signedAttributes hne
  exact ⟨hinserted, hexchanged⟩

end TypeAtlas.ClassFile
