import TypeAtlas.Decimal.Binary64

/-!
# TOML values and tables

A document is a table, and a table a list of entries in the order in which their keys first occur.
A table remembers how it came about, because that decides who may still add to it: a dotted key only
to tables that dotted keys made, a header only to a table that no header has named before.
-/

set_option autoImplicit false

namespace TypeAtlas.Toml

/-- How a table came about: written between braces, named by a header, passed through by a longer
header, or passed through by a dotted key. -/
inductive TableOrigin where
  | inline | header | implied | dotted
  deriving DecidableEq, Repr

/-- A value. Of dates and times it is only kept that they are there. -/
inductive Value where
  | string (text : String)
  | integer (value : Int)
  | float (value : Decimal.Binary64)
  | boolean (value : Bool)
  | datetime
  | array (items : List Value)
  | table (origin : TableOrigin) (entries : List (String × Value))
  /-- The tables that headers in double brackets add up to. -/
  | tables (items : List (List (String × Value)))
  deriving Repr

/-- The entries of a table. -/
abbrev Entries := List (String × Value)

/-- A dotted key: the keys of the tables that it passes through, and the key itself. -/
structure DottedKey where
  parents : List String
  name : String
  deriving DecidableEq, Repr

/-- The dotted key of a list of parts. -/
def DottedKey.ofParts (parts : List String) : Option DottedKey :=
  parts.getLast?.map fun name => ⟨parts.dropLast, name⟩

namespace Entries

/-- Puts another value in the place of the one that a key has. -/
def replace (entries : Entries) (key : String) (value : Value) : Entries :=
  entries.map fun entry => if entry.1 = key then (key, value) else entry

/-- Takes a key out. -/
def erase (entries : Entries) (key : String) : Entries :=
  entries.filter fun entry => entry.1 ≠ key

/-- Whether a dotted key may pass through a table, or, with its last step, enter into it. -/
def admits (origin : TableOrigin) (last : Bool) : Bool :=
  match origin with
  | .dotted => true
  | .implied => !last
  | .inline | .header => false

/-- Enters a value under a key, in the table that some other keys lead to. -/
def insert (name : String) (value : Value) : List String → Entries → Option Entries
  | [], entries =>
    if (entries.lookup name).isSome then none else some (entries ++ [(name, value)])
  | key :: path, entries =>
    match entries.lookup key with
    | none => (insert name value path []).map fun inner => entries ++ [(key, .table .dotted inner)]
    | some (.table origin inner) =>
      if admits origin path.isEmpty then
        (insert name value path inner).map fun inner => replace entries key (.table origin inner)
      else none
    | some (.tables items) =>
      if path.isEmpty then none
      else
        (insert name value path (items.getLast?.getD [])).map fun last =>
          replace entries key (.tables (items.dropLast ++ [last]))
    | some _ => none

/-- Enters values one after another. -/
def insertAll (entries : Entries) (body : List (DottedKey × Value)) : Option Entries :=
  body.foldlM (fun entries (key, value) => insert key.name value key.parents entries) entries

/-- Changes the table that the keys of a header lead to. Tables that are not there yet are made, and
of an array of tables the last one is meant. -/
def within (change : Entries → Option Entries) : List String → Entries → Option Entries
  | [], entries => change entries
  | key :: path, entries =>
    match entries.lookup key with
    | none =>
      (within change path []).map fun inner => entries ++ [(key, .table .implied inner)]
    | some (.table origin inner) =>
      if origin = .inline then none
      else (within change path inner).map fun inner => replace entries key (.table origin inner)
    | some (.tables items) =>
      (within change path (items.getLast?.getD [])).map fun last =>
        replace entries key (.tables (items.dropLast ++ [last]))
    | some _ => none

/-- Enters the body of a table that a header names. A table that is there already must have been
passed through only; it moves to the end. -/
def define (name : String) (body : List (DottedKey × Value)) (entries : Entries) :
    Option Entries :=
  match entries.lookup name with
  | none => (insertAll [] body).map fun inner => entries ++ [(name, .table .header inner)]
  | some (.table .implied inner) =>
    (insertAll inner body).map fun inner => erase entries name ++ [(name, .table .header inner)]
  | some _ => none

/-- Adds a table to an array of tables. -/
def push (name : String) (body : List (DottedKey × Value)) (entries : Entries) :
    Option Entries :=
  match entries.lookup name with
  | none => (insertAll [] body).map fun inner => entries ++ [(name, .tables [inner])]
  | some (.tables items) =>
    (insertAll [] body).map fun inner => replace entries name (.tables (items ++ [inner]))
  | some _ => none

end Entries

end TypeAtlas.Toml
