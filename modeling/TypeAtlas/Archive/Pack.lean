import TypeAtlas.Archive.Crc32
import TypeAtlas.Text.Utf8

/-!
# Writing archives

`pack` writes a zip archive whose entries are stored as they are: for each entry a header and its
data, then the directory, then the end record.
-/

set_option autoImplicit false

namespace TypeAtlas.Archive

/-- The bytes of a number, the least significant one first. -/
def toLittleEndian (width n : Nat) : Bytes := (toBigEndian width n).reverse

/-- The flag that says that a name is in UTF-8; names in ASCII need none. -/
def nameFlags (name : String) : Nat := if name.toList.all fun c => c.toNat < 128 then 0 else 0x800

/-- What the header and the directory record of an entry have in common: version, flags, method,
time, checksum, sizes, and the lengths of the name and of the extra fields. -/
def commonFields (name : String) (content : Bytes) : Bytes :=
  toLittleEndian 2 20 ++ toLittleEndian 2 (nameFlags name) ++ toLittleEndian 2 0
    ++ toLittleEndian 2 0 ++ toLittleEndian 2 0x21
    ++ toLittleEndian 4 (crc32 content).toNat
    ++ toLittleEndian 4 content.length ++ toLittleEndian 4 content.length
    ++ toLittleEndian 2 (Text.Utf8.encode name).length ++ toLittleEndian 2 0

/-- An entry's header and data. -/
def packEntry (name : String) (content : Bytes) : Bytes :=
  toLittleEndian 4 0x04034B50 ++ commonFields name content ++ Text.Utf8.encode name ++ content

/-- The directory record of an entry whose header is at an offset. -/
def packRecord (offset : Nat) (name : String) (content : Bytes) : Bytes :=
  toLittleEndian 4 0x02014B50 ++ toLittleEndian 2 20 ++ commonFields name content
    ++ toLittleEndian 2 0 ++ toLittleEndian 2 0 ++ toLittleEndian 2 0 ++ toLittleEndian 4 0
    ++ toLittleEndian 4 offset ++ Text.Utf8.encode name

/-- The end record of an archive. -/
def packEnd (count size offset : Nat) : Bytes :=
  toLittleEndian 4 0x06054B50 ++ toLittleEndian 2 0 ++ toLittleEndian 2 0
    ++ toLittleEndian 2 count ++ toLittleEndian 2 count
    ++ toLittleEndian 4 size ++ toLittleEndian 4 offset ++ toLittleEndian 2 0

/-- The directory records of entries, the first of which has its header at an offset. -/
def packDirectory : Nat → List (String × Bytes) → Bytes
  | _, [] => []
  | offset, (name, content) :: rest =>
    packRecord offset name content
      ++ packDirectory (offset + (packEntry name content).length) rest

/-- An archive of named contents, in order. -/
def pack (entries : List (String × Bytes)) : Bytes :=
  let data := entries.flatMap fun (name, content) => packEntry name content
  let directory := packDirectory 0 entries
  data ++ directory ++ packEnd entries.length directory.length data.length

end TypeAtlas.Archive
