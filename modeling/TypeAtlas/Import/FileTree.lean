import TypeAtlas.Text.Utf8

/-!
# Trees of files

A file tree is a file or a directory. The entries of a directory are in the order of the bytes of
their names, and so a walk meets files in that order.
-/

set_option autoImplicit false

namespace TypeAtlas

/-- A path of the file system, which need not be text. -/
abbrev FilePath := Bytes

/-- The text of a path, U+FFFD standing for what is no text. -/
def FilePath.display (path : FilePath) : String := Text.Utf8.decodeLossy path

/-- The path that a text spells. -/
def FilePath.ofString (text : String) : FilePath := Text.Utf8.encode text

/-- The byte between the names of a path. -/
def slash : UInt8 := 0x2F

/-- The byte before an extension. -/
def dot : UInt8 := 0x2E

namespace FilePath

/-- The names of a path, which may be empty. -/
def names : FilePath → List Bytes
  | [] => [[]]
  | b :: rest =>
    if b = slash then [] :: names rest
    else
      match names rest with
      | first :: others => (b :: first) :: others
      | [] => [[b]]

/-- The path of an entry of a directory. -/
def join (directory : FilePath) (name : Bytes) : FilePath :=
  if directory.getLast? = some slash then directory ++ name else directory ++ slash :: name

/-- What follows the last dot of a name, unless that is also its first byte. -/
def extension? (name : Bytes) : Option Bytes :=
  match name.reverse.dropWhile (· ≠ dot) with
  | [] | [_] => none
  | _ => some (name.reverse.takeWhile (· ≠ dot)).reverse

/-- Whether a name has an extension out of a list. -/
def hasExtension (extensions : List String) (name : Bytes) : Bool :=
  match extension? name with
  | none => false
  | some extension => (extensions.map ofString).contains extension

/-- The last name of a path. -/
def fileName (path : FilePath) : Bytes := (names path).getLast?.getD []

end FilePath

/-- A file, or a directory with its entries in order. -/
inductive FileTree where
  | file (content : Bytes)
  | directory (entries : List (Bytes × FileTree))
  deriving Repr

/-- A cause for which nothing can be reached at a path. -/
inductive FileFault where
  /-- There is nothing. -/
  | missing
  /-- The path goes on through a file. -/
  | notDirectory
  /-- The path is too long, or no path of a file system. -/
  | invalidPath
  deriving DecidableEq, Repr

namespace FileTree

/-- The greatest length of a name. -/
def longestName : Nat := 255

/-- The greatest length of a path. -/
def longestPath : Nat := 4095

/-- Follows names from a directory on; the directories above it are known as well. An empty name or
a dot stays in the directory, two dots lead to the one above. -/
def follow : List FileTree → FileTree → List Bytes → Except FileFault FileTree
  | _, tree, [] => .ok tree
  | _, .file _, _ :: _ => .error .notDirectory
  | above, .directory entries, name :: rest =>
    if name = [] ∨ name = [dot] then follow above (.directory entries) rest
    else if name = [dot, dot] then
      match above with
      | parent :: above => follow above parent rest
      | [] => follow [] (.directory entries) rest
    else if longestName < name.length then .error .invalidPath
    else
      match entries.lookup name with
      | some child => follow (.directory entries :: above) child rest
      | none => .error .missing

/-- What there is at a path from the root. -/
def lookup (root : FileTree) (path : FilePath) : Except FileFault FileTree :=
  if path.contains 0 ∨ longestPath < path.length then .error .invalidPath
  else follow [] root path.names

/-- Enters a child under a name, in the order of the names. -/
def enter (name : Bytes) (child : FileTree) :
    List (Bytes × FileTree) → List (Bytes × FileTree)
  | [] => [(name, child)]
  | entry :: rest =>
    if entry.1 = name then (name, child) :: rest
    else if name < entry.1 then (name, child) :: entry :: rest
    else entry :: enter name child rest

/-- The entries of a directory; a file counts as an empty one. -/
def entries : FileTree → List (Bytes × FileTree)
  | .directory entries => entries
  | .file _ => []

/-- Changes what there is below some names, making directories on the way. -/
def update (change : Option FileTree → FileTree) : List Bytes → Option FileTree → FileTree
  | [], tree => change tree
  | name :: rest, tree =>
    let entries := (tree.map entries).getD []
    .directory (enter name (update change rest (entries.lookup name)) entries)

/-- The names on the way from the root to a path, without detours: an empty name or a dot leads
nowhere, and two dots undo the name before them. -/
def steps (path : FilePath) : List Bytes :=
  path.names.foldl (fun way name =>
    if name = [] ∨ name = [dot] then way
    else if name = [dot, dot] then way.dropLast
    else way ++ [name]) []

/-- Writes a file, with the directories above it. -/
def writeFile (root : FileTree) (path : FilePath) (content : Bytes) : FileTree :=
  update (fun _ => .file content) (steps path) (some root)

/-- Makes a directory, with the directories above it, unless it is there already. -/
def makeDirectory (root : FileTree) (path : FilePath) : FileTree :=
  update (fun tree => tree.getD (.directory [])) (steps path) (some root)

mutual

/-- The files of a tree at a path, with their paths, depth first. -/
def walk (path : FilePath) : FileTree → List (FilePath × Bytes)
  | .file content => [(path, content)]
  | .directory entries => walkAll path entries

/-- The files of the entries of a directory at a path. -/
def walkAll (path : FilePath) : List (Bytes × FileTree) → List (FilePath × Bytes)
  | [] => []
  | (name, tree) :: rest => walk (path.join name) tree ++ walkAll path rest

end

end FileTree

end TypeAtlas
