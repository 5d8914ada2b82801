import Mathlib.Data.Char
import Mathlib.Data.List.Basic
import Mathlib.Data.List.TakeWhile
import TypeAtlas.Import.Location
import TypeAtlas.Proofs.Url.Escapes

/-!
# URLs of plain paths

A path whose names are made of letters, digits, `-`, `_` and `.` (`IsPlainName`) needs no escapes:
the URL of such a file is `file://` and the path, it is read into the names of the path
(`parse_file`), and these lead back to the path (`ofSegments_urlNames`). A URL of another scheme,
without a slash before its path, keeps the path as one text, in which control characters and all
that is above U+007E are escaped (`parse_rootless`).
-/

set_option autoImplicit false

namespace TypeAtlas

namespace Url

/-! ## Plain names -/

/-- A character that stands for itself in the path of a file. -/
def IsPlainChar (c : Char) : Prop := c.isAlphanum = true ∨ c ∈ ['-', '_', '.']

/-- A character of a path of plain names. -/
def IsPathChar (c : Char) : Prop := c = '/' ∨ IsPlainChar c

instance (c : Char) : Decidable (IsPlainChar c) :=
  inferInstanceAs (Decidable (c.isAlphanum = true ∨ c ∈ ['-', '_', '.']))

instance (c : Char) : Decidable (IsPathChar c) :=
  inferInstanceAs (Decidable (c = '/' ∨ IsPlainChar c))

/-- A name that needs no escapes and does not lead elsewhere. -/
structure IsPlainName (name : String) : Prop where
  nonempty : name ≠ ""
  chars : ∀ c ∈ name.toList, IsPlainChar c
  dot : name ≠ "."
  dots : name ≠ ".."

instance (name : String) : Decidable (IsPlainName name) :=
  -- not by going through all characters that there are
  haveI := List.decidableBAll IsPlainChar name.toList
  decidable_of_iff
    (name ≠ "" ∧ (∀ c ∈ name.toList, IsPlainChar c) ∧ name ≠ "." ∧ name ≠ "..")
    ⟨fun ⟨nonempty, chars, dot, dots⟩ => { nonempty, chars, dot, dots },
      fun h => ⟨h.nonempty, h.chars, h.dot, h.dots⟩⟩

/-- The names in the URL of a path. The root has one name, which is empty. -/
def urlNames : List String → List String
  | [] => [""]
  | name :: names => name :: names

/-- The characters of the absolute path along some names. -/
def pathChars (names : List String) : List Char :=
  (urlNames names).flatMap fun name => '/' :: name.toList

/-- The text of the absolute path along some names. -/
def absolutePath (names : List String) : String := String.ofList (pathChars names)

/-- The URL of the file along some names. -/
def fileUrl (names : List String) : String := "file://" ++ absolutePath names

section Chars

variable {c d : Char}

theorem IsPlainChar.ne (h : IsPlainChar c) (hd : ¬ IsPlainChar d) : c ≠ d :=
  fun heq => hd (heq ▸ h)

theorem IsPathChar.ne (h : IsPathChar c) (hd : ¬ IsPathChar d) : c ≠ d :=
  fun heq => hd (heq ▸ h)

theorem IsPathChar.toNat_bounds (h : IsPathChar c) : 0x2D ≤ c.toNat ∧ c.toNat ≤ 0x7A := by
  have hwithin : ∀ low high : Char, 0x2D ≤ low.toNat → high.toNat ≤ 0x7A →
      low.val ≤ c.val ∧ c.val ≤ high.val → 0x2D ≤ c.toNat ∧ c.toNat ≤ 0x7A :=
    fun low high hlow hhigh h => ⟨Nat.le_trans hlow h.1, Nat.le_trans h.2 hhigh⟩
  rcases h with rfl | h | h
  · decide
  · rcases (Bool.or_eq_true _ _).mp h with halpha | hdigit
    · rcases (Bool.or_eq_true _ _).mp halpha with hupper | hlower
      · exact hwithin 'A' 'Z' (by decide) (by decide) (of_decide_eq_true hupper)
      · obtain ⟨hlow, hhigh⟩ := (Bool.and_eq_true _ _).mp hlower
        exact hwithin 'a' 'z' (by decide) (by decide)
          ⟨of_decide_eq_true hlow, of_decide_eq_true hhigh⟩
    · exact hwithin '0' '9' (by decide) (by decide) (Char.isDigit_iff_toNat.1 hdigit)
  · simp only [List.mem_cons, List.not_mem_nil, or_false] at h
    rcases h with rfl | rfl | rfl <;> decide

theorem IsPathChar.isControl_eq_false (h : IsPathChar c) : isControl c = false := by
  have hbounds := h.toNat_bounds
  rw [isControl, Bool.or_eq_false_iff, decide_eq_false_iff_not, decide_eq_false_iff_not]
  omega

theorem IsPathChar.endsPath_eq_false (h : IsPathChar c) : endsPath c = false := by
  rw [endsPath, Bool.or_eq_false_iff]
  exact ⟨decide_eq_false (h.ne (by decide)), decide_eq_false (h.ne (by decide))⟩

theorem IsPlainChar.isSlash_eq_false (h : IsPlainChar c) : isSlash true c = false := by
  rw [isSlash, Bool.true_and, Bool.or_eq_false_iff]
  exact ⟨decide_eq_false (h.ne (by decide)), decide_eq_false (h.ne (by decide))⟩

theorem IsPlainChar.inPathSet_eq_false (h : IsPlainChar c) : inPathSet c = false := by
  have hother : ∀ others : List Char, (others.all fun d => !decide (IsPlainChar d)) = true →
      others.contains c = false := by
    intro others hothers
    refine Bool.eq_false_iff.2 fun hmem => ?_
    have hc := List.all_eq_true.1 hothers c (List.contains_iff_mem.1 hmem)
    rw [decide_eq_true h] at hc
    cases hc
  rw [inPathSet, inFragmentSet, IsPathChar.isControl_eq_false (Or.inr h), hother _ (by decide),
    hother _ (by decide)]
  rfl

/-- A character that is neither a blank nor a control character counts within a URL. -/
theorem isSignificant_of_le (h : ' ' ≤ c) : isSignificant c = true := by
  have hne : ∀ d : Char, d < ' ' → c ≠ d := fun d hd heq =>
    absurd (heq ▸ h) (Char.not_le.2 hd)
  simp only [isSignificant, Bool.and_eq_true, decide_eq_true_eq]
  exact ⟨⟨hne _ (by decide), hne _ (by decide)⟩, hne _ (by decide)⟩

theorem IsPathChar.space_lt (h : IsPathChar c) : ' ' < c := by
  have hbounds := h.toNat_bounds
  show ' '.val.toNat < c.val.toNat
  have hspace : ' '.val.toNat = 32 := rfl
  have hnat : c.toNat = c.val.toNat := rfl
  omega

end Chars

theorem mem_urlNames {names : List String} {name : String} (h : name ∈ urlNames names) :
    name = "" ∨ name ∈ names := by
  cases names with
  | nil => exact Or.inl (List.mem_singleton.1 h)
  | cons first rest => exact Or.inr h

theorem toList_fileUrl (names : List String) :
    (fileUrl names).toList = "file://".toList ++ pathChars names := by
  rw [fileUrl, String.toList_append, absolutePath]
  exact congrArg ("file://".toList ++ ·) String.toList_ofList

section Names

variable {names : List String} (hnames : ∀ name ∈ names, IsPlainName name)
include hnames

theorem isPlainChar_of_mem_urlNames {name : String} (hname : name ∈ urlNames names) :
    ∀ c ∈ name.toList, IsPlainChar c := by
  rcases mem_urlNames hname with rfl | hname
  · exact fun c hc => absurd hc List.not_mem_nil
  · exact (hnames name hname).chars

theorem isPathChar_of_mem_pathChars {c : Char} (hc : c ∈ pathChars names) : IsPathChar c := by
  obtain ⟨name, hname, hc⟩ := List.mem_flatMap.1 hc
  rcases List.mem_cons.1 hc with rfl | hc
  · exact Or.inl rfl
  · exact Or.inr (isPlainChar_of_mem_urlNames hnames hname c hc)

/-- The URL of a file has one character that its path has not. -/
theorem eq_colon_or_isPathChar {c : Char} (hc : c ∈ (fileUrl names).toList) :
    c = ':' ∨ IsPathChar c := by
  rw [toList_fileUrl, List.mem_append] at hc
  rcases hc with hc | hc
  · have hfront : ("file://".toList.all fun c => decide (c = ':' ∨ IsPathChar c)) = true := by
      decide
    exact of_decide_eq_true (List.all_eq_true.1 hfront c hc)
  · exact Or.inr (isPathChar_of_mem_pathChars hnames hc)

end Names

/-- A path starts with a slash. -/
theorem exists_pathChars (names : List String) : ∃ rest, pathChars names = '/' :: rest := by
  cases names with
  | nil => exact ⟨[], rfl⟩
  | cons name names => exact ⟨name.toList ++ names.flatMap fun name => '/' :: name.toList, rfl⟩

/-! ## Segments -/

/-- Characters before the first slash belong to the first segment. -/
theorem splitSegments_append {special : Bool} {name tail first : List Char}
    {others : List (List Char)} (hname : ∀ c ∈ name, isSlash special c = false)
    (htail : splitSegments special tail = first :: others) :
    splitSegments special (name ++ tail) = (name ++ first) :: others := by
  induction name with
  | nil => exact htail
  | cons c name ih =>
    obtain ⟨hc, hname⟩ := List.forall_mem_cons.1 hname
    rw [List.cons_append, splitSegments, hc, if_neg Bool.false_ne_true, ih hname]
    rfl

theorem splitSegments_slash {special : Bool} (rest : List Char) :
    splitSegments special ('/' :: rest) = [] :: splitSegments special rest := by
  rw [splitSegments, isSlash]
  rfl

/-- Names after slashes are the segments after the first slash. -/
theorem splitSegments_flatMap {special : Bool} {names : List String}
    (hnames : ∀ name ∈ names, ∀ c ∈ name.toList, isSlash special c = false) :
    splitSegments special (names.flatMap fun name => '/' :: name.toList) =
      [] :: names.map String.toList := by
  induction names with
  | nil => rfl
  | cons name names ih =>
    obtain ⟨hname, hrest⟩ := List.forall_mem_cons.1 hnames
    rw [List.flatMap_cons, List.cons_append, splitSegments_slash,
      splitSegments_append hname (ih hrest), List.append_nil, List.map_cons]

/-- A segment of plain characters that is not made of dots only. -/
structure IsPlainSegment (segment : List Char) : Prop where
  chars : ∀ c ∈ segment, IsPlainChar c
  dot : segment ≠ ['.']
  dots : segment ≠ ['.', '.']

namespace IsPlainSegment

variable {segment : List Char} (h : IsPlainSegment segment)
include h

omit h in
/-- Without percent signs only a dot is a dot. -/
theorem dropDot?_eq_some {chars rest : List Char} (hchars : ∀ c ∈ chars, IsPlainChar c)
    (hdrop : dropDot? chars = some rest) : chars = '.' :: rest := by
  unfold dropDot? at hdrop
  split at hdrop
  · rw [Option.some.inj hdrop]
  · exact absurd (hchars '%' List.mem_cons_self) (by decide)
  · exact absurd (hchars '%' List.mem_cons_self) (by decide)
  · cases hdrop

theorem isSingleDot_eq_false : isSingleDot segment = false := by
  refine Bool.eq_false_iff.2 fun hdot => ?_
  exact h.dot (dropDot?_eq_some h.chars (eq_of_beq hdot))

theorem isDoubleDot_eq_false : isDoubleDot segment = false := by
  refine Bool.eq_false_iff.2 fun hdots => ?_
  obtain ⟨rest, hfirst, hsecond⟩ := Option.bind_eq_some_iff.1 (eq_of_beq hdots)
  have hsegment := dropDot?_eq_some h.chars hfirst
  have hrest := dropDot?_eq_some
    (fun c hc => h.chars c (hsegment ▸ List.mem_cons_of_mem _ hc)) hsecond
  exact h.dots (hrest ▸ hsegment)

theorem filter_isSignificant : segment.filter isSignificant = segment :=
  List.filter_eq_self.2 fun c hc =>
    isSignificant_of_le (le_of_lt (IsPathChar.space_lt (Or.inr (h.chars c hc))))

theorem segmentText_eq : segmentText segment = String.ofList segment := by
  rw [segmentText, percentEncode_eq_self fun c hc => (h.chars c hc).inPathSet_eq_false]

end IsPlainSegment

/-- Plain segments are added to a path of a file one after another, once it has begun. -/
theorem Walk.follow_plain {w : Walk} {segments : List (List Char)} (hw : w.names ≠ [])
    (h : ∀ segment ∈ segments, IsPlainSegment segment) :
    Walk.follow true w segments =
      { w with names := w.names ++ segments.map String.ofList } := by
  induction segments generalizing w with
  | nil => rw [Walk.follow, List.map_nil, List.append_nil]
  | cons segment rest ih =>
    obtain ⟨hsegment, hrest⟩ := List.forall_mem_cons.1 h
    have hbegun : w.names.isEmpty = false := List.isEmpty_eq_false_iff.2 hw
    have henter : w.enter true segment =
        { w with names := w.names ++ [String.ofList segment] } := by
      rw [Walk.enter, if_pos rfl, Walk.enterFile, hsegment.filter_isSignificant,
        hsegment.segmentText_eq, hbegun]
      rfl
    have hnext : (w.enter true segment).names ≠ [] := by
      rw [henter]
      exact List.append_ne_nil_of_right_ne_nil _ (List.cons_ne_nil _ _)
    rw [Walk.follow]
    simp only [hsegment.filter_isSignificant, hsegment.isDoubleDot_eq_false,
      hsegment.isSingleDot_eq_false, Bool.and_false, Bool.false_eq_true, if_false]
    rw [ih hnext hrest, henter, List.map_cons, List.append_assoc, List.singleton_append]

/-- The empty segment before the first slash begins the path of a file. -/
theorem Walk.follow_empty_front (rest : List (List Char)) :
    Walk.follow true {} ([] :: rest) = Walk.follow true { names := [""] } rest :=
  rfl

/-! ## Reading -/

theorem dropWhile_of_head? {α : Type} {p : α → Bool} {list : List α}
    (h : ∀ a ∈ list.head?, p a = false) : list.dropWhile p = list := by
  cases list with
  | nil => rfl
  | cons a rest => rw [List.dropWhile_cons, h a rfl, if_neg Bool.false_ne_true]

/-- Nothing is trimmed off a text that neither starts nor ends with a blank or a control
character. -/
theorem trim_eq_self {chars : List Char} (hfirst : ∀ c ∈ chars.head?, ' ' < c)
    (hlast : ∀ c ∈ chars.getLast?, ' ' < c) : trim chars = chars := by
  have hother : ∀ c : Char, ' ' < c → decide (c ≤ ' ') = false := fun c hc =>
    decide_eq_false (Char.not_le.2 hc)
  rw [trim, dropWhile_of_head? fun c hc => hother c (hfirst c hc), dropWhile_of_head?,
    List.reverse_reverse]
  intro c hc
  rw [List.head?_reverse] at hc
  exact hother c (hlast c hc)

section EndsPath

variable {chars : List Char} (h : ∀ c ∈ chars, endsPath c = false)
include h

/-- Without a query and a fragment all belongs to the path. -/
theorem takeWhile_endsPath : chars.takeWhile (!endsPath ·) = chars :=
  List.takeWhile_eq_self_iff.2 fun c hc => (Bool.not_eq_true' _).mpr (h c hc)

theorem dropWhile_endsPath : chars.dropWhile (!endsPath ·) = [] :=
  List.dropWhile_eq_nil_iff.2 fun c hc => (Bool.not_eq_true' _).mpr (h c hc)

end EndsPath

/-- What is read where there is nothing to trim or to leave out, and no query and no fragment. -/
theorem parse_of_splitScheme? {text scheme : String} {rest : List Char}
    (htrim : trim text.toList = text.toList)
    (hchars : ∀ c ∈ text.toList, isSignificant c = true)
    (hscheme : splitScheme? text.toList = some (scheme, rest))
    (hends : ∀ c ∈ rest, endsPath c = false) :
    parse text =
      ((if scheme = "file" then parseFile (afterColon text.toList)
        else if isSpecial scheme then parseWeb scheme rest
        else parseOther scheme rest).map fun read =>
          { scheme, authority := read.1, path := read.2, query := none, fragment := none }) := by
  rw [parse, htrim, List.filter_eq_self.2 hchars, hscheme]
  simp only [dropWhile_endsPath hends]
  split_ifs
  · cases parseFile (afterColon text.toList) <;> rfl
  · cases parseWeb scheme rest <;> rfl
  · cases parseOther scheme rest <;> rfl

/-- After two slashes and before a third there is no host. -/
theorem parseFile_local (rest : List Char) :
    parseFile ('/' :: '/' :: '/' :: rest) = .ok (filePath none ('/' :: rest)) :=
  rfl

section File

variable {names : List String} (hnames : ∀ name ∈ names, IsPlainName name)
include hnames

theorem isPlainSegment_of_mem {segment : List Char}
    (h : segment ∈ (urlNames names).map String.toList) : IsPlainSegment segment := by
  obtain ⟨name, hname, rfl⟩ := List.mem_map.1 h
  refine ⟨isPlainChar_of_mem_urlNames hnames hname, ?_, ?_⟩
  all_goals
    intro heq
    rcases mem_urlNames hname with rfl | hmem
    · cases heq
  · exact (hnames name hmem).dot (String.toList_inj.1 heq)
  · exact (hnames name hmem).dots (String.toList_inj.1 heq)

/-- The empty name before the first slash is left out, the root's own one is not. -/
theorem dropEmptyFront_urlNames : dropEmptyFront ("" :: urlNames names) = urlNames names := by
  cases names with
  | nil => rfl
  | cons name rest =>
    have hname := (hnames name List.mem_cons_self).nonempty
    have hkept : name.isEmpty = false := by
      rw [Bool.eq_false_iff, Ne, String.isEmpty_iff]
      exact hname
    rw [dropEmptyFront, urlNames, List.dropWhile_cons_of_pos rfl,
      dropWhile_of_head? fun a ha => by rw [← Option.some.inj ha]; exact hkept]

theorem filePath_pathChars :
    filePath none (pathChars names) = (some {}, .segments (urlNames names)) := by
  have hpath : (pathChars names).takeWhile (!endsPath ·) = pathChars names :=
    takeWhile_endsPath fun c hc => (isPathChar_of_mem_pathChars hnames hc).endsPath_eq_false
  have hsplit : splitSegments true (pathChars names) = [] :: (urlNames names).map String.toList :=
    splitSegments_flatMap fun name hname c hc =>
      (isPlainChar_of_mem_urlNames hnames hname c hc).isSlash_eq_false
  have hback : ((urlNames names).map String.toList).map String.ofList = urlNames names := by
    rw [List.map_map]
    exact (List.map_congr_left fun name _ => String.ofList_toList).trans (List.map_id _)
  rw [filePath, hpath, hsplit, Walk.follow_empty_front,
    Walk.follow_plain (List.cons_ne_nil _ _) fun segment h => isPlainSegment_of_mem hnames h, hback]
  show (_, Path.segments (dropEmptyFront ("" :: urlNames names))) = _
  rw [dropEmptyFront_urlNames hnames]
  rfl

/-- The URL of a plain path is read into the names of the path. -/
theorem parse_file : parse (fileUrl names) =
    .ok { scheme := "file", authority := some {}, path := .segments (urlNames names),
          query := none, fragment := none } := by
  obtain ⟨rest, hrest⟩ := exists_pathChars names
  have hspace : ∀ c ∈ (fileUrl names).toList, ' ' < c := by
    intro c hc
    rcases eq_colon_or_isPathChar hnames hc with rfl | hc
    · decide
    · exact hc.space_lt
  have htrim : trim (fileUrl names).toList = (fileUrl names).toList :=
    trim_eq_self (fun c hc => hspace c (List.mem_of_head? hc))
      fun c hc => hspace c (List.mem_of_getLast? hc)
  have hscheme : splitScheme? (fileUrl names).toList =
      some ("file", '/' :: '/' :: pathChars names) := by
    rw [toList_fileUrl]
    rfl
  have hends : ∀ c ∈ '/' :: '/' :: pathChars names, endsPath c = false := by
    simp only [List.forall_mem_cons]
    exact ⟨by decide, by decide,
      fun c hc => (isPathChar_of_mem_pathChars hnames hc).endsPath_eq_false⟩
  rw [parse_of_splitScheme? htrim (fun c hc => isSignificant_of_le (le_of_lt (hspace c hc)))
    hscheme hends, if_pos rfl, toList_fileUrl]
  show (parseFile ('/' :: '/' :: pathChars names)).map _ = _
  rw [hrest, parseFile_local, ← hrest, filePath_pathChars hnames]
  rfl

end File

/-- The text after a scheme without rules of its own stays one path where no slash begins it. -/
theorem parse_rootless {text scheme : String} {rest : List Char}
    (htrim : trim text.toList = text.toList)
    (hchars : ∀ c ∈ text.toList, isSignificant c = true)
    (hscheme : splitScheme? text.toList = some (scheme, rest))
    (hends : ∀ c ∈ rest, endsPath c = false)
    (hother : isSpecial scheme = false) (hslash : rest.head? ≠ some '/') :
    parse text =
      .ok { scheme, authority := none, query := none, fragment := none,
            path := .rootless (String.ofList (percentEncode isControl rest)) } := by
  have hfile : scheme ≠ "file" := by
    rintro rfl
    exact absurd hother (by decide)
  have hread : parseOther scheme rest =
      .ok (none, .rootless (String.ofList (percentEncode isControl rest))) := by
    unfold parseOther
    split
    · exact absurd rfl hslash
    · exact absurd rfl hslash
    · rw [takeWhile_endsPath hends]
  rw [parse_of_splitScheme? htrim hchars hscheme hends, if_neg hfile, hother,
    if_neg Bool.false_ne_true, hread]
  rfl

/-! ## The path of a file -/

/-- A character of a plain path is written as one byte. -/
theorem IsPathChar.utf8EncodeChar_eq {c : Char} (h : IsPathChar c) :
    String.utf8EncodeChar c = [UInt8.ofNat c.toNat] :=
  if_pos (Nat.le_trans h.toNat_bounds.2 (by decide))

/-- The byte of a character of a plain path is not the one of another ASCII character. -/
theorem IsPathChar.byte_ne {c d : Char} (h : IsPathChar c) (hd : ¬ IsPathChar d)
    (hascii : d.toNat ≤ 0x7F) : UInt8.ofNat c.toNat ≠ UInt8.ofNat d.toNat := by
  intro heq
  have hbounds := h.toNat_bounds
  have hnat := congrArg UInt8.toNat heq
  have hsize : UInt8.size = 0x100 := rfl
  rw [UInt8.toNat_ofNat_of_lt' (by omega), UInt8.toNat_ofNat_of_lt' (by omega)] at hnat
  exact h.ne hd (Char.toNat_inj.1 hnat)

theorem exists_char_of_mem_encode {text : String} {b : UInt8}
    (h : ∀ c ∈ text.toList, IsPathChar c) (hb : b ∈ Text.Utf8.encode text) :
    ∃ c, IsPathChar c ∧ b = UInt8.ofNat c.toNat := by
  obtain ⟨c, hc, hb⟩ := List.mem_flatMap.1 hb
  rw [(h c hc).utf8EncodeChar_eq] at hb
  exact ⟨c, h c hc, List.mem_singleton.1 hb⟩

/-- A text without a percent sign stands for its own bytes. -/
theorem percentDecode_eq_encode {text : String} (h : ∀ c ∈ text.toList, IsPathChar c) :
    percentDecode text = Text.Utf8.encode text := by
  refine decodeBytes_eq_self fun hpercent => ?_
  obtain ⟨c, hc, hbyte⟩ := exists_char_of_mem_encode h hpercent
  exact hc.byte_ne (d := '%') (by decide) (by decide) hbyte.symm

theorem endsInDrive_eq_false {path : FilePath} (hcolon : 0x3A ∉ path) (hbar : 0x7C ∉ path) :
    endsInDrive path = false := by
  unfold endsInDrive
  split
  · rename_i mark letter first rest hreverse
    have hmark : mark ∈ path := List.mem_reverse.1 (hreverse ▸ List.mem_cons_self)
    have hcolon : mark ≠ 0x3A := fun h => hcolon (h ▸ hmark)
    have hbar : mark ≠ 0x7C := fun h => hbar (h ▸ hmark)
    rw [decide_eq_false hcolon, decide_eq_false hbar, Bool.or_false, Bool.and_false]
  · rfl

section File

variable {names : List String} (hnames : ∀ name ∈ names, IsPlainName name)
include hnames

/-- The names in the URL of a plain path spell the path. -/
theorem ofSegments_urlNames :
    FilePath.ofSegments (urlNames names) = FilePath.ofString (absolutePath names) := by
  have hchars : ∀ c ∈ (absolutePath names).toList, IsPathChar c := by
    rw [absolutePath, String.toList_ofList]
    exact fun c => isPathChar_of_mem_pathChars hnames
  have hjoined : ((urlNames names).flatMap fun name => slash :: percentDecode name) =
      FilePath.ofString (absolutePath names) := by
    rw [FilePath.ofString, Text.Utf8.encode, absolutePath, String.toList_ofList, pathChars,
      List.flatMap_assoc]
    refine List.flatMap_congr fun name hname => ?_
    rw [percentDecode_eq_encode fun c hc =>
      Or.inr (isPlainChar_of_mem_urlNames hnames hname c hc), List.flatMap_cons]
    rfl
  have hbyte : ∀ d : Char, ¬ IsPathChar d → d.toNat ≤ 0x7F →
      UInt8.ofNat d.toNat ∉ FilePath.ofString (absolutePath names) := by
    intro d hd hascii hmem
    obtain ⟨c, hc, heq⟩ := exists_char_of_mem_encode hchars hmem
    exact hc.byte_ne hd hascii heq.symm
  rw [FilePath.ofSegments, hjoined,
    endsInDrive_eq_false (hbyte ':' (by decide) (by decide)) (hbyte '|' (by decide) (by decide))]
  rfl

end File

end Url

end TypeAtlas
