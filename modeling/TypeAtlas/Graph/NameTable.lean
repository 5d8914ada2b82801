/-!
# Tables of names

A name table gives each name a number, in the order in which names are first asked for, and never
takes a number back. The number of a name is its place in the list of names.
-/

set_option autoImplicit false

namespace TypeAtlas

/-- The names numbered so far, in the order of their numbers. -/
structure NameTable where
  names : List String := []
  deriving DecidableEq, Repr

namespace NameTable

/-- The number of names. -/
def size (table : NameTable) : Nat := table.names.length

/-- Whether no name has been numbered. -/
def isEmpty (table : NameTable) : Bool := table.size == 0

/-- The number of a name, if it has one. -/
def find? (table : NameTable) (name : String) : Option Nat := table.names.idxOf? name

/-- The number of a name; one without a number would get this one. -/
def idOf (table : NameTable) (name : String) : Nat := table.names.idxOf name

/-- Numbers a name that has no number yet. -/
def insert (table : NameTable) (name : String) : NameTable :=
  if table.names.contains name then table else ⟨table.names ++ [name]⟩

/-- The number of a name, which gets the next one if it has none. -/
def getOrCreate (table : NameTable) (name : String) : Nat × NameTable :=
  match table.find? name with
  | some id => (id, table)
  | none => (table.size, table.insert name)

/-- Numbers names one after another. -/
def insertAll (table : NameTable) (names : List String) : NameTable := names.foldl insert table

/-- The table that numbers names in the order of their first occurrence in a list. -/
def ofList (names : List String) : NameTable := insertAll {} names

end NameTable

end TypeAtlas
