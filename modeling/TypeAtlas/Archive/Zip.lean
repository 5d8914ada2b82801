import TypeAtlas.Archive.Crc32
import TypeAtlas.Archive.Inflate
import TypeAtlas.Text.CodePage437
import TypeAtlas.Text.Utf8

/-!
# Zip archives

An archive is read from its end: the end record says where the directory is, the directory has one
record for each entry, and such a record says where the entry's own header and data are. Anything
may come before the archive proper; the offsets that it states are then too small by the length of
that.

Numbers are little-endian. An end record or a directory record that lacks room for a number refers
to wider fields elsewhere.
-/

set_option autoImplicit false

namespace TypeAtlas.Archive

/-- A cause for which an archive, or an entry of it, cannot be read. -/
inductive ZipFault where
  /-- A record reaches beyond the end of the file. -/
  | truncated
  /-- A record is not where it should be. -/
  | malformed
  /-- The archive, or the entry, is of a kind that is not supported. -/
  | unsupported
  /-- The compressed data of an entry makes no sense. -/
  | corrupt
  /-- The data of an entry does not have the checksum that it should have. -/
  | wrongChecksum
  deriving DecidableEq, Repr

/-- The number that `width` bytes from a position on spell, if they are all there. -/
def numberAt? (content : Array UInt8) : Nat → Nat → Option Nat
  | 0, _ => some 0
  | width + 1, position => do
    let low ← content[position]?
    return low.toNat + 256 * (← numberAt? content width (position + 1))

/-- The number at a position, which must be there. -/
def numberAt (content : Array UInt8) (width position : Nat) : Except ZipFault Nat :=
  match numberAt? content width position with
  | some n => .ok n
  | none => .error .truncated

/-- A stretch of bytes, as far as the file reaches. -/
def stretch (content : Array UInt8) (position length : Nat) : Bytes :=
  (content.extract position (position + length)).toList

/-- A stretch of bytes, which must be there. -/
def bytesAt (content : Array UInt8) (position length : Nat) : Except ZipFault Bytes :=
  if position + length ≤ content.size then .ok (stretch content position length)
  else .error .truncated

/-! ## The end record -/

/-- The number that begins an end record. -/
def endMark : Nat := 0x06054B50

/-- The number that begins the record that says where a wide end record is. -/
def locatorMark : Nat := 0x07064B50

/-- The number that begins a wide end record. -/
def wideEndMark : Nat := 0x06064B50

/-- The number that begins a record of the directory. -/
def directoryMark : Nat := 0x02014B50

/-- The number that begins the header of an entry. -/
def entryMark : Nat := 0x04034B50

/-- The greatest position in any file. -/
def greatestPosition : Nat := 0x7FFFFFFFFFFFFFFF

/-- The greatest number that an offset can be. -/
def greatestOffset : Nat := 0xFFFFFFFFFFFFFFFF

/-- The length of an end record without its comment. -/
def endLength : Nat := 22

/-- The greatest length of the comment of an end record. -/
def longestComment : Nat := 65535

/-- The position of the last end record, which may have been found up to `steps` places before a
position. -/
def findEnd (content : Array UInt8) : Nat → Nat → Option Nat
  | 0, _ => none
  | steps + 1, position =>
    if numberAt? content 4 position = some endMark then some position
    else if position = 0 then none
    else findEnd content steps (position - 1)

/-- Where the directory is: the length of what comes before the archive proper, the position of the
first record, and how many records there are. -/
structure Directory where
  shift : Nat
  start : Nat
  count : Nat
  deriving DecidableEq, Repr

/-- An end record. -/
structure EndRecord where
  position : Nat
  disk : Nat
  directoryDisk : Nat
  countOnDisk : Nat
  count : Nat
  size : Nat
  offset : Nat
  commentLength : Nat
  deriving DecidableEq, Repr

namespace EndRecord

/-- Reads the end record at a position. -/
def read (content : Array UInt8) (position : Nat) : Except ZipFault EndRecord := do
  let commentLength ← numberAt content 2 (position + 20)
  let _ ← bytesAt content (position + endLength) commentLength
  return {
    position
    disk := ← numberAt content 2 (position + 4)
    directoryDisk := ← numberAt content 2 (position + 6)
    countOnDisk := ← numberAt content 2 (position + 8)
    count := ← numberAt content 2 (position + 10)
    size := ← numberAt content 4 (position + 12)
    offset := ← numberAt content 4 (position + 16)
    commentLength }

/-- Whether the record lacks room for one of its numbers. -/
def isNarrow (r : EndRecord) : Bool :=
  [r.disk, r.directoryDisk, r.countOnDisk, r.count].contains 0xFFFF
    || [r.size, r.offset].contains 0xFFFFFFFF

/-- The directory that the record itself states. It ends where the end record begins. -/
def directory (r : EndRecord) : Except ZipFault Directory :=
  if r.position < r.size + r.offset then .error .malformed
  else
    let shift := r.position - r.size - r.offset
    .ok ⟨shift, r.offset + shift, r.countOnDisk⟩

/-- The position of the record that says where a wide end record is, if there is one. -/
def locator? (content : Array UInt8) (r : EndRecord) : Option Nat :=
  let before := endLength + 20 + r.commentLength
  if before ≤ content.size ∧ numberAt? content 4 (content.size - before) = some locatorMark then
    some (content.size - before)
  else none

/-- The position of the first wide end record from a position on, within a number of steps. -/
def findWide (content : Array UInt8) : Nat → Nat → Option Nat
  | 0, _ => none
  | steps + 1, position =>
    if numberAt? content 4 position = some wideEndMark then some position
    else findWide content steps (position + 1)

/-- The directory that a wide end record states. -/
def wideDirectory (content : Array UInt8) (r : EndRecord) (locator : Nat) :
    Except ZipFault Directory := do
  let directoryDisk ← numberAt content 4 (locator + 4)
  let nominal ← numberAt content 8 (locator + 8)
  if !r.isNarrow && r.disk != directoryDisk then throw .unsupported
  if r.position < 60 then throw .malformed
  match findWide content (r.position - 60 + 1 - nominal) nominal with
  | none => throw .malformed
  | some position =>
    let shift := position - nominal
    let disk ← numberAt content 4 (position + 16)
    let directoryDisk ← numberAt content 4 (position + 20)
    if disk ≠ directoryDisk then throw .unsupported
    let count ← numberAt content 8 (position + 32)
    let offset ← numberAt content 8 (position + 48)
    if greatestPosition < offset + shift then throw .malformed
    return ⟨shift, offset + shift, count⟩

end EndRecord

/-- Finds the directory of an archive. -/
def Directory.find (content : Array UInt8) : Except ZipFault Directory :=
  if content.size < endLength then .error .malformed
  else
    match findEnd content (longestComment + 1) (content.size - endLength) with
    | none => .error .malformed
    | some position => do
      let record ← EndRecord.read content position
      if !record.isNarrow && record.disk != record.directoryDisk then throw .unsupported
      match record.locator? content with
      | none => record.directory
      | some locator => record.wideDirectory content locator

/-! ## The directory -/

/-- An entry of an archive, as the directory describes it. -/
structure Entry where
  name : String
  /-- Whether the data is encrypted, by either of the two ways of saying so. -/
  encrypted : Bool
  sealed : Bool
  method : Nat
  checksum : UInt32
  compressedSize : Nat
  /-- The position of the entry's own header. -/
  start : Nat
  deriving DecidableEq, Repr

namespace Entry

/-- What extra fields can change of a directory record: its sizes, its offset, how the data is
compressed, and whether it is sealed with AES. -/
structure Extent where
  size : Nat
  compressedSize : Nat
  offset : Nat
  method : Nat
  sealed : Bool
  deriving DecidableEq, Repr

/-- Takes a number off the front of a byte string, the least significant byte first. -/
def takeNumber (width : Nat) (bytes : Bytes) : Option (Nat × Bytes) :=
  (splitExactly width bytes).map fun (front, rest) => (ofBigEndian front.reverse, rest)

/-- Replaces a number that lacks room by a wider one, if the bytes for it are there. -/
def widen (n : Nat) (bytes : Bytes) : Nat × Option Bytes :=
  if n = 0xFFFFFFFF then
    match takeNumber 8 bytes with
    | some (wide, rest) => (wide, some rest)
    | none => (n, none)
  else (n, some bytes)

/-- Reads the wider numbers of a field, as far as they are there, and gives the bytes after them. -/
def Extent.widened (e : Extent) (bytes : Bytes) : Extent × Option Bytes :=
  let (size, bytes) := widen e.size bytes
  let (compressedSize, bytes) := (bytes.map (widen e.compressedSize)).getD (e.compressedSize, none)
  let (offset, bytes) := (bytes.map (widen e.offset)).getD (e.offset, none)
  ({ e with size, compressedSize, offset }, bytes)

/-- The field about AES: by whom, and in which version, its form is defined, how strong the key is,
and how the data is compressed before it is encrypted. -/
structure Seal where
  version : Nat
  vendor : Nat
  strength : Nat
  method : Nat
  deriving DecidableEq, Repr

/-- The length of the field about AES. -/
def Seal.length : Nat := 7

/-- Reads the field about AES, if the bytes for it are there. -/
def Seal.read (bytes : Bytes) : Option (Seal × Bytes) := do
  let (version, bytes) ← takeNumber 2 bytes
  let (vendor, bytes) ← takeNumber 2 bytes
  let (strength, bytes) ← takeNumber 1 bytes
  let (method, bytes) ← takeNumber 2 bytes
  return (⟨version, vendor, strength, method⟩, bytes)

/-- Whether the numbers of the field are among those that are defined. -/
def Seal.isDefined (s : Seal) : Bool :=
  s.vendor == 0x4541 && [1, 2].contains s.version && [1, 2, 3].contains s.strength

/-- Reads the extra fields of a record, of which the one with wider numbers and the one about AES
count. Where the bytes run out, what has been read so far holds. A field is as long as it says, but
wider numbers are read beyond that if need be, and after the field about AES as many bytes again are
passed over. The first argument bounds the number of fields. -/
def Extent.applyExtra : Nat → Bytes → Extent → Except ZipFault Extent
  | 0, _, e => .ok e
  | bound + 1, bytes, e =>
    match takeNumber 2 bytes with
    | none => .ok e
    | some (kind, bytes) =>
      match takeNumber 2 bytes with
      | none => .ok e
      | some (length, bytes) =>
        if kind = 1 then
          match e.widened bytes with
          | (e, none) => .ok e
          | (e, some rest) => applyExtra bound (rest.drop (length + rest.length - bytes.length)) e
        else if kind = 0x9901 then
          if length ≠ Seal.length then .error .unsupported
          else
            match Seal.read bytes with
            | none => .ok e
            | some (field, rest) =>
              if field.isDefined then
                applyExtra bound (rest.drop length)
                  { e with method := field.method, sealed := true }
              else .error .malformed
        else applyExtra bound (bytes.drop length) e

/-- The number of the method that says that the data is sealed with AES. -/
def sealedMethod : Nat := 99

/-- The least position after a directory record's fixed part. -/
def fixedLength : Nat := 46

/-- The name that a record gives an entry: in UTF-8 if the record says so, else in code page 437. -/
def nameOf (flags : Nat) (bytes : Bytes) : String :=
  if flags.testBit 11 then Text.Utf8.decodeLossy bytes else Text.CodePage437.decode bytes

/-- Reads the directory record at a position, and gives the position after it. -/
def read (content : Array UInt8) (shift position : Nat) : Except ZipFault (Entry × Nat) := do
  if (← numberAt content 4 position) ≠ directoryMark then throw .malformed
  let flags ← numberAt content 2 (position + 8)
  let method ← numberAt content 2 (position + 10)
  let checksum ← numberAt content 4 (position + 16)
  let compressedSize ← numberAt content 4 (position + 20)
  let size ← numberAt content 4 (position + 24)
  let nameLength ← numberAt content 2 (position + 28)
  let extraLength ← numberAt content 2 (position + 30)
  let commentLength ← numberAt content 2 (position + 32)
  let offset ← numberAt content 4 (position + 42)
  let name ← bytesAt content (position + fixedLength) nameLength
  let extra ← bytesAt content (position + fixedLength + nameLength) extraLength
  let after := position + fixedLength + nameLength + extraLength
  let _ ← bytesAt content after commentLength
  let extent ← Extent.applyExtra extraLength extra ⟨size, compressedSize, offset, method, false⟩
  if extent.method = sealedMethod ∧ !extent.sealed then throw .malformed
  if greatestOffset < extent.offset + shift then throw .malformed
  let entry : Entry := {
    name := nameOf flags name
    encrypted := flags.testBit 0
    sealed := extent.sealed
    method := extent.method
    checksum := UInt32.ofNat checksum
    compressedSize := extent.compressedSize
    start := extent.offset + shift }
  return (entry, after + commentLength)

/-- Reads directory records, one after another. -/
def readAll (content : Array UInt8) (shift : Nat) : Nat → Nat → Except ZipFault (List Entry)
  | 0, _ => .ok []
  | count + 1, position => do
    let (entry, position) ← read content shift position
    return entry :: (← readAll content shift count position)

/-- Whether an entry is a directory, by its name. -/
def isDirectory (e : Entry) : Bool :=
  match e.name.toList.getLast? with
  | some c => c = '/' || c = '\\'
  | none => false

/-! ## Data -/

/-- The data of an entry as it is stored, after the entry's own header. -/
def storedData (content : Array UInt8) (e : Entry) : Except ZipFault Bytes := do
  if (← numberAt content 4 e.start) ≠ entryMark then throw .malformed
  let nameLength ← numberAt content 2 (e.start + 26)
  let extraLength ← numberAt content 2 (e.start + 28)
  return stretch content (e.start + 30 + nameLength + extraLength) e.compressedSize

/-- The stored data of an entry that can be read: it is not encrypted, and stored as it is or
deflated. -/
def openData (content : Array UInt8) (e : Entry) : Except ZipFault Bytes := do
  if e.encrypted then throw .unsupported
  let stored ← storedData content e
  if (e.method = 0 ∨ e.method = 8) ∧ !e.sealed then return stored else throw .unsupported

/-- The data of an entry, which must have the stated checksum. -/
def data (content : Array UInt8) (e : Entry) : Except ZipFault Bytes := do
  let stored ← openData content e
  match if e.method = 0 then some stored else inflate stored with
  | none => throw .corrupt
  | some bytes => if crc32 bytes = e.checksum then return bytes else throw .wrongChecksum

end Entry

/-! ## Whole archives -/

/-- An archive: its bytes, and its entries in the order of the directory. -/
structure Zip where
  content : Array UInt8
  entries : List Entry
  deriving Repr

namespace Zip

/-- Reads the directory of an archive. -/
def ofBytes (bytes : Bytes) : Except ZipFault Zip := do
  let content := bytes.toArray
  let directory ← Directory.find content
  return ⟨content, ← Entry.readAll content directory.shift directory.count directory.start⟩

/-- The entry of a name; of entries with one name it is the last. -/
def find? (zip : Zip) (name : String) : Option Entry :=
  zip.entries.reverse.find? fun e => e.name == name

end Zip

end TypeAtlas.Archive
