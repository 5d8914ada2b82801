/-!
# Modifiers and kinds of classes

An access-flag word is decoded for what it belongs to: some bits mean one thing on a field and
another on a method, and on a class nothing at all.
-/

set_option autoImplicit false

namespace TypeAtlas

/-- The modifiers that access flags can stand for. -/
inductive Modifier where
  | «public» | «protected» | «private» | static | final | synchronized | volatile
  | bridge | transient | varargs | native | abstract | strictfp | synthetic
  deriving DecidableEq, Repr

/-- What an access-flag word belongs to. -/
inductive FlagSite where
  | onClass | onField | onMethod
  deriving DecidableEq, Repr

/-- A set of modifiers, one bit for each member. -/
structure Modifiers where
  bits : UInt16
  deriving DecidableEq, Repr

namespace Modifier

/-- Every modifier, in the order in which they are listed. -/
def all : List Modifier :=
  [.«public», .«protected», .«private», .static, .final, .synchronized, .volatile,
    .bridge, .transient, .varargs, .native, .abstract, .strictfp, .synthetic]

/-- The keyword of a modifier, or the usual word for one that has no keyword. -/
def word : Modifier → String
  | .«public» => "public"
  | .«protected» => "protected"
  | .«private» => "private"
  | .static => "static"
  | .final => "final"
  | .synchronized => "synchronized"
  | .volatile => "volatile"
  | .bridge => "bridge"
  | .transient => "transient"
  | .varargs => "varargs"
  | .native => "native"
  | .abstract => "abstract"
  | .strictfp => "strictfp"
  | .synthetic => "synthetic"

/-- The flag bit that stands for a modifier at a site, if there is one. -/
def flag? (m : Modifier) (site : FlagSite) : Option UInt16 :=
  match site, m with
  | _, .«public» => some 0x0001
  | _, .«private» => some 0x0002
  | _, .«protected» => some 0x0004
  | _, .static => some 0x0008
  | _, .final => some 0x0010
  | _, .abstract => some 0x0400
  | _, .synthetic => some 0x1000
  | .onField, .volatile => some 0x0040
  | .onField, .transient => some 0x0080
  | .onMethod, .synchronized => some 0x0020
  | .onMethod, .bridge => some 0x0040
  | .onMethod, .varargs => some 0x0080
  | .onMethod, .native => some 0x0100
  | .onMethod, .strictfp => some 0x0800
  | _, _ => none

/-- The bit that marks a modifier as a member of a set. -/
def bit (m : Modifier) : UInt16 := 1 <<< UInt16.ofNat (all.idxOf m)

end Modifier

/-- Whether a word has a flag bit set. -/
def hasFlag (flags bit : UInt16) : Bool := flags &&& bit != 0

namespace Modifiers

/-- The set without members. -/
def none : Modifiers := ⟨0⟩

/-- Whether a modifier is a member. -/
def has (set : Modifiers) (m : Modifier) : Bool := hasFlag set.bits m.bit

/-- Adds a member. -/
def insert (set : Modifiers) (m : Modifier) : Modifiers := ⟨set.bits ||| m.bit⟩

/-- The set of the listed modifiers. -/
def ofList (list : List Modifier) : Modifiers := list.foldl insert none

/-- The members of a set, in the order of `Modifier.all`. -/
def toList (set : Modifiers) : List Modifier := Modifier.all.filter set.has

/-- Whether a set has no member. -/
def isEmpty (set : Modifiers) : Bool := set.bits == 0

/-- The modifiers that an access-flag word stands for at a site. -/
def ofFlags (site : FlagSite) (flags : UInt16) : Modifiers :=
  ofList (Modifier.all.filter fun m => match m.flag? site with
    | some bit => hasFlag flags bit
    | Option.none => false)

end Modifiers

/-- The kinds of declared types. -/
inductive ClassKind where
  | plain | interface | enumeration | annotationType
  deriving DecidableEq, Repr

namespace ClassKind

/-- The kind that a class's access flags stand for. An annotation type is flagged as an interface
too, so its own flag is looked at first. -/
def ofFlags (flags : UInt16) : ClassKind :=
  if hasFlag flags 0x2000 then .annotationType
  else if hasFlag flags 0x0200 then .interface
  else if hasFlag flags 0x4000 then .enumeration
  else .plain

/-- Whether types of this kind are interfaces. -/
def isInterface : ClassKind → Bool
  | .interface => true
  | .annotationType => true
  | _ => false

/-- The name of a kind. -/
def name : ClassKind → String
  | .plain => "Class"
  | .interface => "Interface"
  | .enumeration => "Enum"
  | .annotationType => "Annotation"

end ClassKind

end TypeAtlas
