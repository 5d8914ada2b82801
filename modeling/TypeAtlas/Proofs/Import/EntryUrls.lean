import TypeAtlas.Archive.Pack
import TypeAtlas.Import.Unit
import TypeAtlas.Proofs.Url.PlainPaths

/-!
# URLs of entries of archives

The URL of an entry is `jar:`, the URL of the archive, `!/` and the name of the entry
(`entryUrl`). Reading it escapes all characters above U+007E (`parse_entryUrl`). The escapes in the
path of the archive are undone, those in the name of the entry are not: it comes out as it was
exactly if it is made of printable ASCII characters, and otherwise the entry is looked for under the
escaped name (`parseUrl_entryUrl`).
-/

set_option autoImplicit false

namespace TypeAtlas

open Url

/-- A name of an entry that ends no path of a URL and from which nothing is left out. -/
structure IsEntryName (entry : String) : Prop where
  nonempty : entry ≠ ""
  chars : ∀ c ∈ entry.toList, ' ' ≤ c ∧ c ≠ '?' ∧ c ≠ '#'
  last : entry.toList.getLast? ≠ some ' '

instance (entry : String) : Decidable (IsEntryName entry) :=
  haveI := List.decidableBAll (fun c => ' ' ≤ c ∧ c ≠ '?' ∧ c ≠ '#') entry.toList
  decidable_of_iff
    (entry ≠ "" ∧ (∀ c ∈ entry.toList, ' ' ≤ c ∧ c ≠ '?' ∧ c ≠ '#') ∧
      entry.toList.getLast? ≠ some ' ')
    ⟨fun ⟨nonempty, chars, last⟩ => { nonempty, chars, last },
      fun h => ⟨h.nonempty, h.chars, h.last⟩⟩

/-- The URL of an entry of the archive along some names. -/
def entryUrl (names : List String) (entry : String) : String :=
  "jar:" ++ fileUrl names ++ "!/" ++ entry

/-- The name under which an entry is looked for that a URL names. -/
def escapedEntry (entry : String) : String :=
  String.ofList (percentEncode isControl entry.toList)

/-- A name is looked for under itself exactly if it has no character to escape. -/
theorem escapedEntry_eq_self_iff {entry : String} (hchars : ∀ c ∈ entry.toList, ' ' ≤ c) :
    escapedEntry entry = entry ↔ ∀ c ∈ entry.toList, c.toNat ≤ 0x7E := by
  rw [escapedEntry, ← String.toList_inj, String.toList_ofList,
    percentEncode_eq_self_iff (by decide)]
  refine forall₂_congr fun c hc => ?_
  have hspace : 0x20 ≤ c.toNat := hchars c hc
  rw [isControl, Bool.or_eq_false_iff, decide_eq_false_iff_not, decide_eq_false_iff_not]
  omega

/-- What stands before the first exclamation mark belongs to the archive if a slash comes next. -/
theorem splitEntry_append {archive : List Char} (entry : List Char) (h : '!' ∉ archive) :
    splitEntry (archive ++ '!' :: '/' :: entry) = some (archive, entry) := by
  induction archive with
  | nil => rfl
  | cons c rest ih =>
    rw [List.mem_cons, not_or] at h
    obtain ⟨hc, hrest⟩ := h
    rw [List.cons_append, splitEntry, ih hrest, Option.map_some]
    rintro tail rfl
    exact absurd rfl hc

theorem toList_entryUrl (names : List String) (entry : String) :
    (entryUrl names entry).toList =
      'j' :: 'a' :: 'r' :: ':' :: ((fileUrl names).toList ++ '!' :: '/' :: entry.toList) := by
  rw [entryUrl, String.toList_append, String.toList_append, String.toList_append,
    List.append_assoc, List.append_assoc]
  rfl

namespace IsEntryName

variable {entry : String} (h : IsEntryName entry)
include h

theorem toList_ne_nil : entry.toList ≠ [] :=
  fun hnil => h.nonempty (String.toList_inj.1 hnil)

theorem space_lt_last {c : Char} (hc : entry.toList.getLast? = some c) : ' ' < c :=
  lt_of_le_of_ne (h.chars c (List.mem_of_getLast? hc)).1 fun heq => h.last (heq ▸ hc)

theorem endsPath_eq_false {c : Char} (hc : c ∈ entry.toList) : endsPath c = false := by
  obtain ⟨-, hquery, hfragment⟩ := h.chars c hc
  rw [endsPath, decide_eq_false hquery, decide_eq_false hfragment, Bool.or_false]

theorem escaped_isEmpty_eq_false : (percentEncode isControl entry.toList).isEmpty = false :=
  List.isEmpty_eq_false_iff.2 (percentEncode_ne_nil h.toList_ne_nil)

end IsEntryName

section Reading

variable {names : List String} {entry : String} (hnames : ∀ name ∈ names, IsPlainName name)
include hnames

/-- In the URL of an archive nothing is to be escaped. -/
theorem percentEncode_fileUrl :
    percentEncode isControl (fileUrl names).toList = (fileUrl names).toList := by
  refine percentEncode_eq_self fun c hc => ?_
  rcases eq_colon_or_isPathChar hnames hc with rfl | hc
  · decide
  · exact hc.isControl_eq_false

theorem mark_notMem_fileUrl : '!' ∉ (fileUrl names).toList := by
  intro hc
  rcases eq_colon_or_isPathChar hnames hc with hcolon | hpath
  · exact absurd hcolon (by decide)
  · exact absurd hpath (by decide)

variable (hentry : IsEntryName entry)
include hentry

/-- The URL of an entry is read as a scheme and one path, in which the entry is escaped. -/
theorem parse_entryUrl : parse (entryUrl names entry) =
    .ok { scheme := "jar", authority := none, query := none, fragment := none,
          path := .rootless (String.ofList
            ((fileUrl names).toList ++ '!' :: '/' :: percentEncode isControl entry.toList)) } := by
  have hmember : ∀ c ∈ (fileUrl names).toList ++ '!' :: '/' :: entry.toList,
      ' ' ≤ c ∧ endsPath c = false := by
    simp only [List.forall_mem_append, List.forall_mem_cons]
    refine ⟨fun c hc => ?_, by decide, by decide, fun c hc =>
      ⟨(hentry.chars c hc).1, hentry.endsPath_eq_false hc⟩⟩
    rcases eq_colon_or_isPathChar hnames hc with rfl | hc
    · decide
    · exact ⟨le_of_lt hc.space_lt, hc.endsPath_eq_false⟩
  have hlast : ∀ c ∈ (entryUrl names entry).toList.getLast?, ' ' < c := by
    intro c hc
    rw [entryUrl, String.toList_append, List.getLast?_append_of_ne_nil _ hentry.toList_ne_nil] at hc
    exact hentry.space_lt_last hc
  have hescaped : percentEncode isControl ((fileUrl names).toList ++ '!' :: '/' :: entry.toList) =
      (fileUrl names).toList ++ '!' :: '/' :: percentEncode isControl entry.toList := by
    rw [percentEncode_append, percentEncode_fileUrl hnames, percentEncode_cons, percentEncode_cons]
    rfl
  rw [← hescaped]
  refine parse_rootless (trim_eq_self ?_ hlast) ?_ ?_ (fun c hc => (hmember c hc).2) (by decide) ?_
  · rw [toList_entryUrl]
    intro c hc
    rw [← Option.some.inj hc]
    decide
  · rw [toList_entryUrl]
    simp only [List.forall_mem_cons]
    exact ⟨by decide, by decide, by decide, by decide,
      fun c hc => isSignificant_of_le (hmember c hc).1⟩
  · rw [toList_entryUrl]
    rfl
  · rw [toList_fileUrl]
    show some 'f' ≠ some '/'
    decide

/-- What the URL of an entry names. -/
theorem parseUrl_eq : Location.parseUrl (entryUrl names entry) =
    .ok (.archiveEntry (FilePath.ofString (absolutePath names)) (escapedEntry entry)) := by
  have hsplit := splitEntry_append (percentEncode isControl entry.toList)
    (mark_notMem_fileUrl hnames)
  have hpath : Url.filePath? { scheme := "file", authority := some {}, query := none,
                               fragment := none, path := .segments (urlNames names) } =
      .ok (FilePath.ofString (absolutePath names)) :=
    congrArg Except.ok (ofSegments_urlNames hnames)
  rw [Location.parseUrl, parse_entryUrl hnames hentry]
  show Location.ofUrl _ = _
  rw [Location.ofUrl, if_neg (show "jar" ≠ "file" by decide), if_pos rfl, Location.ofJarUrl,
    Path.text, String.toList_ofList, hsplit]
  simp only [String.ofList_toList, parse_file hnames]
  rw [if_neg (not_not_intro rfl), hentry.escaped_isEmpty_eq_false, if_neg Bool.false_ne_true, hpath]
  rfl

end Reading

/-- Where an archive has no entry of a name, none is found. -/
theorem collect_eq_locationNotFound {root : FileTree} {archive : FilePath} {name : String}
    {content : Bytes} {zip : Archive.Zip} (hreach : root.reach archive = .ok (.file content))
    (hzip : Archive.Zip.ofBytes content = .ok zip) (hnone : ∀ e ∈ zip.entries, e.name ≠ name) :
    ImportUnit.collect root (.archiveEntry archive name) =
      .error (.locationNotFound (entryName archive name)) := by
  have hfind : zip.find? name = none :=
    List.find?_eq_none.2 fun e he heq => hnone e (List.mem_reverse.1 he) (eq_of_beq heq)
  rw [ImportUnit.collect, hreach]
  show ImportUnit.ofArchiveEntry archive content name = _
  rw [ImportUnit.ofArchiveEntry, hzip]
  simp only [Except.mapError, bind, Except.bind, hfind]
  rfl

/-- The URL of an entry names the archive, and the entry under the escaped name. That is the name of
the entry exactly if no character of it is above U+007E. In an archive without an entry of the
escaped name nothing is found, whether or not it has an entry of the name. -/
theorem parseUrl_entryUrl {names : List String} {entry : String}
    (hnames : ∀ name ∈ names, IsPlainName name) (hentry : IsEntryName entry) :
    Location.parseUrl (entryUrl names entry) =
        .ok (.archiveEntry (FilePath.ofString (absolutePath names)) (escapedEntry entry)) ∧
      (escapedEntry entry = entry ↔ ∀ c ∈ entry.toList, c.toNat ≤ 0x7E) ∧
      ∀ root content zip,
        FileTree.reach root (FilePath.ofString (absolutePath names)) = .ok (.file content) →
        Archive.Zip.ofBytes content = .ok zip →
        (∀ e ∈ zip.entries, e.name ≠ escapedEntry entry) →
        (Location.parseUrl (entryUrl names entry)).toOption.map (ImportUnit.collect root) =
          some (.error (.locationNotFound
            (entryName (FilePath.ofString (absolutePath names)) (escapedEntry entry)))) := by
  have hparse := parseUrl_eq hnames hentry
  refine ⟨hparse, escapedEntry_eq_self_iff fun c hc => (hentry.chars c hc).1, ?_⟩
  intro root content zip hreach hzip hnone
  rw [hparse]
  exact congrArg some (collect_eq_locationNotFound hreach hzip hnone)

/-- A class whose name has a letter beyond ASCII is in the archive and is not found by its URL. -/
theorem parseUrl_entryUrl_unfound :
    ∃ root content zip,
      FileTree.reach root (FilePath.ofString "/srv/lib-1.0.jar") = .ok (.file content) ∧
      Archive.Zip.ofBytes content = .ok zip ∧
      zip.entries.map (·.name) = ["com/Überfall.class"] ∧
      (Location.parseUrl "jar:file:///srv/lib-1.0.jar!/com/Überfall.class").toOption.map
          (ImportUnit.collect root) =
        some (.error (.locationNotFound
          (entryName (FilePath.ofString "/srv/lib-1.0.jar") "com/%C3%9Cberfall.class"))) := by
  have hentries : (Archive.Zip.ofBytes (Archive.pack [("com/Überfall.class", [0xCA])])).map
      (fun zip => zip.entries.map (·.name)) = .ok ["com/Überfall.class"] := by
    decide +kernel
  have hnames : ∀ name ∈ ["srv", "lib-1.0.jar"], IsPlainName name := by decide
  have hentry : IsEntryName "com/Überfall.class" := by decide
  cases hzip : Archive.Zip.ofBytes (Archive.pack [("com/Überfall.class", [0xCA])]) with
  | error e =>
    rw [hzip] at hentries
    cases hentries
  | ok zip =>
    rw [hzip] at hentries
    have hlisted : zip.entries.map (·.name) = ["com/Überfall.class"] := Except.ok.inj hentries
    have hnone : ∀ e ∈ zip.entries, e.name ≠ escapedEntry "com/Überfall.class" := by
      intro e he
      have hname := List.mem_map_of_mem (f := (·.name)) he
      rw [hlisted, List.mem_singleton] at hname
      rw [hname]
      decide
    refine ⟨(FileTree.directory []).writeFile (FilePath.ofString "/srv/lib-1.0.jar")
      (Archive.pack [("com/Überfall.class", [0xCA])]), _, zip, rfl, hzip, hlisted, ?_⟩
    exact (parseUrl_entryUrl hnames hentry).2.2 _ _ zip rfl hzip hnone

/-- The entry that a URL is made of is not the one that it names. -/
theorem entryUrl_renamed :
    (∀ name ∈ ["tmp", "lib.jar"], IsPlainName name) ∧ IsEntryName "Ä.class" ∧
      Location.parseUrl "jar:file:///tmp/lib.jar!/Ä.class" =
        .ok (.archiveEntry (FilePath.ofString "/tmp/lib.jar") "%C3%84.class") ∧
      Location.parseUrl (entryUrl ["tmp", "lib.jar"] "Ä.class") ≠
        .ok (.archiveEntry (FilePath.ofString (absolutePath ["tmp", "lib.jar"])) "Ä.class") :=
  ⟨by decide, by decide, by decide +kernel, by decide +kernel⟩

end TypeAtlas
