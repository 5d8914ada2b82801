import TypeAtlas.Import.FileTree
import TypeAtlas.Url.Parse

/-!
# Locations of class files

Where an import takes class files from. A location can be written as a URL: `file:` names a file or
a directory, and `jar:` an entry of an archive, as the URL of the archive, `!/` and the entry's
name.
-/

set_option autoImplicit false

namespace TypeAtlas

/-- Where class files come from. -/
inductive Location where
  /-- A class file, a directory with all that is below it, or an archive. -/
  | path (path : FilePath)
  /-- One entry of an archive. -/
  | archiveEntry (archive : FilePath) (entry : String)
  /-- The bytes of a class file; the name is only for messages. -/
  | bytes (name : String) (content : Bytes)
  deriving DecidableEq, Repr

/-- The name of an entry of an archive. -/
def entryName (archive : FilePath) (entry : String) : String := archive.display ++ "!/" ++ entry

/-- The text of a location, as messages show it. -/
def Location.display : Location → String
  | .path file => file.display
  | .archiveEntry archive entry => entryName archive entry
  | .bytes name _ => name

/-- A cause for which a URL is no location. -/
inductive LocationFault where
  | unparsable (error : Url.ParseError)
  | unsupportedScheme (scheme : String)
  | missingSeparator
  | archiveNotFile
  | emptyEntry
  | notLocal
  deriving DecidableEq, Repr

/-- The wording of a cause. -/
def LocationFault.message : LocationFault → String
  | .unparsable error => error.message
  | .unsupportedScheme scheme => "unsupported scheme `" ++ scheme ++ "`"
  | .missingSeparator => "missing `!/` entry separator"
  | .archiveNotFile => "only file archives are supported"
  | .emptyEntry => "empty archive entry"
  | .notLocal => "not a local file path"

/-- A URL that is no location. Its text is normalised, unless it is no URL at all. -/
structure InvalidUrl where
  url : String
  fault : LocationFault
  deriving DecidableEq, Repr

/-- The wording of the error. -/
def InvalidUrl.message (e : InvalidUrl) : String :=
  "invalid url `" ++ e.url ++ "`: " ++ e.fault.message

/-- Whether a path ends in something like a drive letter, which is then a directory. -/
def endsInDrive (path : FilePath) : Bool :=
  match path.reverse with
  | mark :: letter :: _ :: _ =>
    (Char.ofNat letter.toNat).isAlpha && (mark = 0x3A || mark = 0x7C)
  | _ => false

/-- The path of segments, each after a slash and decoded. -/
def FilePath.ofSegments (names : List String) : FilePath :=
  let path := names.flatMap fun name => slash :: Url.percentDecode name
  if endsInDrive path then path ++ [slash] else path

/-- The path that a URL names on this machine. -/
def Url.filePath? (url : Url) : Except InvalidUrl FilePath :=
  match url.host?, url.path with
  | none, .segments names => .ok (FilePath.ofSegments names)
  | _, _ => .error ⟨url.text, .notLocal⟩

/-- Splits a text at the first `!/`. -/
def splitEntry : List Char → Option (List Char × List Char)
  | '!' :: '/' :: entry => some ([], entry)
  | c :: rest => (splitEntry rest).map fun (archive, entry) => (c :: archive, entry)
  | [] => none

namespace Location

/-- The entry of an archive that a URL names. The name of the entry stays as it is written in the
URL; only the archive's path is decoded. -/
def ofJarUrl (url : Url) : Except InvalidUrl Location :=
  match splitEntry url.path.text.toList with
  | none => .error ⟨url.text, .missingSeparator⟩
  | some (archive, entry) =>
    match Url.parse (String.ofList archive) with
    | .error e => .error ⟨url.text, .unparsable e⟩
    | .ok archive =>
      if archive.scheme ≠ "file" then .error ⟨url.text, .archiveNotFile⟩
      else if entry.isEmpty then .error ⟨url.text, .emptyEntry⟩
      else archive.filePath?.map fun path => .archiveEntry path (String.ofList entry)

/-- The location that a URL names. -/
def ofUrl (url : Url) : Except InvalidUrl Location :=
  if url.scheme = "file" then url.filePath?.map .path
  else if url.scheme = "jar" then ofJarUrl url
  else .error ⟨url.text, .unsupportedScheme url.scheme⟩

/-- The location that the text of a URL names. -/
def parseUrl (text : String) : Except InvalidUrl Location :=
  match Url.parse text with
  | .error e => .error ⟨text, .unparsable e⟩
  | .ok url => ofUrl url

end Location

end TypeAtlas
