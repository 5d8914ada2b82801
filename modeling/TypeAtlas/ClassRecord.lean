import TypeAtlas.ClassFile.Basic
import TypeAtlas.Modifier

/-!
# Class records

A class record is the content of a class file in the form in which classes are linked: names are
binary names, flags are modifiers, members are split into fields and code units, and what the
inner-class table and the enclosing-method attribute say about the class itself is folded in.
-/

set_option autoImplicit false

namespace TypeAtlas

open ClassFile (MemberReference constructorName staticInitializerName)

/-- A field of a class. -/
structure FieldRecord where
  name : String
  descriptor : String
  type : FieldType
  modifiers : Modifiers
  signature : Option String
  annotations : List (AnnotationTree String)
  deriving Repr

/-- The kinds of code units. -/
inductive CodeUnitKind where
  | method | constructor | staticInitializer
  deriving DecidableEq, Repr

/-- The kind of a code unit, which its name decides. -/
def CodeUnitKind.ofName (name : String) : CodeUnitKind :=
  if name = constructorName then .constructor
  else if name = staticInitializerName then .staticInitializer
  else .method

/-- A method, a constructor or a static initializer of a class. -/
structure CodeUnit where
  kind : CodeUnitKind
  name : String
  descriptor : String
  type : MethodType
  modifiers : Modifiers
  signature : Option String
  /-- The binary names of the exceptions that it declares. -/
  throws : List String
  annotations : List (AnnotationTree String)
  /-- The field accesses and calls of its body, in order. -/
  references : List MemberReference
  deriving Repr

/-- A class, ready to be linked. -/
structure ClassRecord where
  name : String
  /-- The last part of the name, as declared; empty for a class without a name of its own. -/
  simpleName : String
  kind : ClassKind
  modifiers : Modifiers
  majorVersion : UInt16
  superClass : Option String
  interfaces : List String
  enclosingClass : Option String
  sourceFile : Option String
  signature : Option String
  annotations : List (AnnotationTree String)
  fields : List FieldRecord
  /-- Methods, constructors and static initializers, in the order of declaration. -/
  codeUnits : List CodeUnit
  deriving Repr

/-- The record of a field. -/
def FieldRecord.ofMember (m : Member FieldType) : FieldRecord where
  name := m.name
  descriptor := m.descriptor
  type := m.type
  modifiers := Modifiers.ofFlags .onField m.flags
  signature := m.signature
  annotations := m.visible ++ m.invisible

/-- The record of a code unit. -/
def CodeUnit.ofMember (m : Member MethodType) : CodeUnit where
  kind := CodeUnitKind.ofName m.name
  name := m.name
  descriptor := m.descriptor
  type := m.type
  modifiers := Modifiers.ofFlags .onMethod m.flags
  signature := m.signature
  throws := m.exceptions.map Text.binaryName
  annotations := m.visible ++ m.invisible
  references :=
    match m.code with
    | some code => code.references
    | none => []

namespace ClassRecord

/-- The record of a class file. What the class's own inner-class entry says about its flags, its
simple name and its outer class goes before what the file says elsewhere. -/
def ofClassFile (file : ClassFile) : ClassRecord :=
  let name := Text.binaryName file.thisClass
  let enclosing := file.enclosingMethod.map (·.owner)
  let own := file.ownInnerClass?
  { name
    simpleName :=
      match own with
      | some entry => entry.innerName.getD ""
      | none => Text.simpleNameOf name
    kind := ClassKind.ofFlags file.flags
    modifiers := Modifiers.ofFlags .onClass
      (match own with
        | some entry => entry.flags
        | none => file.flags)
    majorVersion := file.majorVersion
    superClass := file.superClass.map Text.binaryName
    interfaces := file.interfaces.map Text.binaryName
    enclosingClass :=
      ((own.bind (·.outer)).or enclosing).map Text.binaryName
    sourceFile := file.sourceFile
    signature := file.signature
    annotations := file.visible ++ file.invisible
    fields := file.fields.map FieldRecord.ofMember
    codeUnits := file.methods.map CodeUnit.ofMember }

/-- The record of the class in a class file. -/
def parse (bytes : Bytes) : Except Rejection ClassRecord :=
  (ClassFile.parse bytes).map ofClassFile

/-- The package of a class. -/
def packageName (c : ClassRecord) : String := Text.packageOf c.name

/-- Whether a file carries information on a package or a module and declares no type. -/
def isPackageInfo (c : ClassRecord) : Bool :=
  Text.simpleNameOf c.name == "package-info" || Text.simpleNameOf c.name == "module-info"

/-- The code units of a kind, in order. -/
def codeUnitsOf (c : ClassRecord) (kind : CodeUnitKind) : List CodeUnit :=
  c.codeUnits.filter fun unit => unit.kind == kind

/-- The methods of a class. -/
def methods (c : ClassRecord) : List CodeUnit := c.codeUnitsOf .method

/-- The constructors of a class. -/
def constructors (c : ClassRecord) : List CodeUnit := c.codeUnitsOf .constructor

/-- The first static initializer of a class. -/
def staticInitializer? (c : ClassRecord) : Option CodeUnit :=
  (c.codeUnitsOf .staticInitializer).head?

end ClassRecord

end TypeAtlas
