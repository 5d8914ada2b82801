import TypeAtlas.Graph.Link
import TypeAtlas.Import.Options
import TypeAtlas.Import.Unit

/-!
# Importing classes

An import reads every unit, drops those that are not wanted, and links the rest. The units may be
read in any order, and each gives the name of its class to a table of names as soon as it is read;
`importWith` therefore takes that table as it stands when all units have been read. `importUnits`
reads them in their own order.
-/

set_option autoImplicit false

namespace TypeAtlas

/-- What comes of reading a unit. -/
inductive Outcome where
  | parsed (record : ClassRecord)
  | malformed (unit : SkippedUnit)
  /-- The unit describes a package or a module, which is not wanted. -/
  | ignored

/-- What an import gives: the graph, and the units left out as malformed, in order. -/
structure Import where
  graph : Graph
  skipped : List SkippedUnit
  deriving Repr

namespace Import

/-- Reads a unit. -/
def readUnit (options : ImportOptions) (u : ImportUnit) : Outcome :=
  match ClassRecord.parse u.content with
  | .error rejection => .malformed ⟨u.source, rejection⟩
  | .ok record =>
    if record.isPackageInfo && !options.includePackageInfo then .ignored else .parsed record

/-- The records and the malformed units among outcomes, in order; or the first malformed unit, if
those are not to be skipped. -/
def sort (policy : MalformedPolicy) :
    List Outcome → Except ImportError (List ClassRecord × List SkippedUnit)
  | [] => .ok ([], [])
  | .parsed record :: rest => do
    let (records, skipped) ← sort policy rest
    return (record :: records, skipped)
  | .ignored :: rest => sort policy rest
  | .malformed u :: rest =>
    match policy with
    | .fail => .error (.malformed u)
    | .skip => do
      let (records, skipped) ← sort policy rest
      return (records, u :: skipped)

/-- The names that reading units gives to the table of names, in the order of the units. -/
def readNames (options : ImportOptions) (units : List ImportUnit) : List String :=
  units.filterMap fun u =>
    match readUnit options u with
    | .parsed record => some record.name
    | _ => none

/-- Imports units, given the table of names after reading them. -/
def importWith (options : ImportOptions) (table : NameTable) (units : List ImportUnit) :
    Except ImportError Import := do
  let (records, skipped) ← sort options.onMalformed (units.map (readUnit options))
  match Graph.link table options.duplicates records with
  | .ok graph => return ⟨graph, skipped⟩
  | .error conflict => throw (.conflict conflict)

/-- Imports units in memory. -/
def importUnits (options : ImportOptions) (units : List ImportUnit) : Except ImportError Import :=
  importWith options (NameTable.ofList (readNames options units)) units

/-- Imports what some locations name. Nothing is read as a class file before every location has been
expanded into units. -/
def importLocations (options : ImportOptions) (root : FileTree) (locations : List Location) :
    Except ImportError Import := do
  importUnits options (← ImportUnit.collectAll root locations)

end Import

end TypeAtlas
