import TypeAtlas.Archive.Zip
import TypeAtlas.Fault
import TypeAtlas.Graph.Duplicate
import TypeAtlas.Import.Location

/-!
# Units of an import

Locations are expanded into units, one for each class file: `collect` takes the class files of a
directory in the order of the walk, and those of an archive in the order of its directory.
-/

set_option autoImplicit false

namespace TypeAtlas

/-- The bytes of one class file, and the name that messages give it. -/
structure ImportUnit where
  source : String
  content : Bytes
  deriving DecidableEq, Repr

/-- A unit that is no readable class file. -/
structure SkippedUnit where
  source : String
  rejection : Rejection
  deriving DecidableEq, Repr

/-- A cause for which an import fails. -/
inductive ImportError where
  /-- There is nothing at a location. -/
  | locationNotFound (location : String)
  /-- A unit is no readable class file. -/
  | malformed (unit : SkippedUnit)
  /-- Two classes of one name differ. -/
  | conflict (conflict : IdentityConflict)
  /-- A file cannot be read. -/
  | unreadable (path : FilePath)
  /-- A file is no archive, or one of a kind that is not supported. -/
  | badArchive (path : FilePath)
  deriving Repr

/-- The wording of an error, for those that have one of their own. -/
def ImportError.message? : ImportError → Option String
  | .locationNotFound location => some ("location not found: " ++ location)
  | .malformed u => some ("malformed class file " ++ u.source ++ ": " ++ u.rejection.message)
  | .conflict c => some c.message
  | .unreadable _ | .badArchive _ => none

/-- The error of a path at which nothing can be reached. -/
def FileFault.toImportError (path : FilePath) : FileFault → ImportError
  | .missing => .locationNotFound path.display
  | .notDirectory | .invalidPath => .unreadable path

namespace Archive

/-- The error of an archive at a path. Data that is cut short or damaged is a matter of reading the
file; everything else of its form. -/
def ZipFault.toImportError (path : FilePath) : ZipFault → ImportError
  | .malformed | .unsupported => .badArchive path
  | .truncated | .corrupt | .wrongChecksum => .unreadable path

end Archive

namespace FileTree

/-- What there is at a path. -/
def reach (root : FileTree) (path : FilePath) : Except ImportError FileTree :=
  (root.lookup path).mapError (·.toImportError path)

end FileTree

namespace ImportUnit

/-- The unit of an entry of an archive at a path. -/
def ofEntry (path : FilePath) (content : Array UInt8) (e : Archive.Entry) :
    Except ImportError ImportUnit :=
  ((e.data content).map fun bytes => ⟨entryName path e.name, bytes⟩).mapError
    (·.toImportError path)

/-- Whether an entry of an archive is taken for a class file. -/
def isClassEntry (name : String) : Bool :=
  name.endsWith ".class" && !name.startsWith "META-INF/"

/-- The units of some entries of an archive. Entries that are left out must be readable in form,
though their data is not looked at. -/
def ofEntries (path : FilePath) (content : Array UInt8) :
    List Archive.Entry → Except ImportError (List ImportUnit)
  | [] => .ok []
  | e :: rest => do
    let _ ← (e.openData content).mapError (·.toImportError path)
    let front ←
      if e.isDirectory || !isClassEntry e.name then pure []
      else pure [← ofEntry path content e]
    return front ++ (← ofEntries path content rest)

/-- The units of an archive. -/
def ofArchive (path : FilePath) (bytes : Bytes) : Except ImportError (List ImportUnit) := do
  let zip ← (Archive.Zip.ofBytes bytes).mapError (·.toImportError path)
  ofEntries path zip.content zip.entries

/-- The unit of one entry of an archive, by its name. -/
def ofArchiveEntry (path : FilePath) (bytes : Bytes) (name : String) :
    Except ImportError (List ImportUnit) := do
  let zip ← (Archive.Zip.ofBytes bytes).mapError (·.toImportError path)
  match zip.find? name with
  | none => throw (.locationNotFound (entryName path name))
  | some e => return [← ofEntry path zip.content e]

/-- The units of a directory. -/
def ofDirectory (path : FilePath) (tree : FileTree) : List ImportUnit :=
  let files := (tree.walk path).filter fun (file, _) =>
    FilePath.hasExtension ["class"] file.fileName
  files.map fun (file, content) => ⟨file.display, content⟩

/-- The units of a location. -/
def collect (root : FileTree) : Location → Except ImportError (List ImportUnit)
  | .path path => do
    match ← root.reach path with
    | .directory entries => return ofDirectory path (.directory entries)
    | .file content =>
      if FilePath.hasExtension ["jar", "zip"] path.fileName then ofArchive path content
      else return [⟨path.display, content⟩]
  | .archiveEntry archive entry => do
    match ← root.reach archive with
    | .directory _ => throw (.unreadable archive)
    | .file content => ofArchiveEntry archive content entry
  | .bytes name content => .ok [⟨name, content⟩]

/-- The units of some locations, in order. -/
def collectAll (root : FileTree) : List Location → Except ImportError (List ImportUnit)
  | [] => .ok []
  | location :: rest => do
    let units ← collect root location
    return units ++ (← collectAll root rest)

end ImportUnit

end TypeAtlas
