import TypeAtlas.ClassRecord

/-!
# Classes of one name

A class may be there more than once. Records of one name that describe the same structure are
collapsed into the first of them; whether records that differ are an error is a matter of policy.
-/

set_option autoImplicit false

namespace TypeAtlas

/-- What to do about records of one name that differ in structure. -/
inductive DuplicatePolicy where
  | fail | firstWins
  deriving DecidableEq, Repr

/-- The first respect in which two records of one name differ. -/
inductive StructureDifference where
  | kind (first second : ClassKind)
  | superClass (first second : Option String)
  | interfaces
  | fields
  | methods
  deriving DecidableEq, Repr

/-- The wording of a difference. -/
def StructureDifference.message : StructureDifference → String
  | .kind first second => "kind " ++ first.name ++ " vs " ++ second.name
  | .superClass first second =>
    "superclass " ++ first.getD "<none>" ++ " vs " ++ second.getD "<none>"
  | .interfaces => "interfaces differ"
  | .fields => "fields differ"
  | .methods => "methods differ"

/-- Two records claim a name, and differ. -/
structure IdentityConflict where
  name : String
  difference : StructureDifference
  deriving DecidableEq, Repr

/-- The wording of a conflict. -/
def IdentityConflict.message (conflict : IdentityConflict) : String :=
  "conflicting definitions of class `" ++ conflict.name ++ "`: " ++ conflict.difference.message

namespace ClassRecord

/-- The names and descriptors of the fields of a class. -/
def fieldKeys (c : ClassRecord) : List (String × String) :=
  c.fields.map fun f => (f.name, f.descriptor)

/-- The names and descriptors of the code units of a class. -/
def codeUnitKeys (c : ClassRecord) : List (String × String) :=
  c.codeUnits.map fun u => (u.name, u.descriptor)

/-- The first respect in which two records differ, if they do. -/
def difference? (first second : ClassRecord) : Option StructureDifference :=
  if first.kind ≠ second.kind then some (.kind first.kind second.kind)
  else if first.superClass ≠ second.superClass then
    some (.superClass first.superClass second.superClass)
  else if first.interfaces ≠ second.interfaces then some .interfaces
  else if first.fieldKeys ≠ second.fieldKeys then some .fields
  else if first.codeUnitKeys ≠ second.codeUnitKeys then some .methods
  else none

/-- Adds to the records kept so far the records of new names. -/
def keepDistinct (policy : DuplicatePolicy) (kept : List ClassRecord) :
    List ClassRecord → Except IdentityConflict (List ClassRecord)
  | [] => .ok kept
  | c :: rest =>
    match kept.find? fun first => first.name == c.name with
    | none => keepDistinct policy (kept ++ [c]) rest
    | some first =>
      match first.difference? c, policy with
      | some difference, .fail => .error ⟨c.name, difference⟩
      | _, _ => keepDistinct policy kept rest

/-- The first record of each name. -/
def dedupe (policy : DuplicatePolicy) (classes : List ClassRecord) :
    Except IdentityConflict (List ClassRecord) :=
  keepDistinct policy [] classes

end ClassRecord

end TypeAtlas
