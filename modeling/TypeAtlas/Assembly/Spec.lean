import TypeAtlas.AnnotationTree
import TypeAtlas.Bytes
import TypeAtlas.Descriptor

/-!
# Descriptions of classes to assemble

A `ClassSpec` says what a class file is to contain. It is built up from one of four starting points
(`ClassSpec.plain`, `interface`, `annotationType`, `enumeration`) by the functions below, which take
binary names. Only the structure matters: bytecode need not be verifiable.
-/

set_option autoImplicit false

namespace TypeAtlas.Assembly

/-- A value to give to an annotation element. A class literal is given as a descriptor. -/
inductive ValueSpec where
  | const (value : ConstValue)
  | enumConst (type name : String)
  | classLiteral (descriptor : String)
  | nested (type : String) (elements : List (String × ValueSpec))
  | array (values : List ValueSpec)
  deriving Repr

/-- The class literal of a type name, such as `int[]` or `void`. -/
def ValueSpec.literalOf (typeName : String) : ValueSpec := .classLiteral (descriptorOf typeName)

/-- An annotation: the name of its type, and the values of its elements. -/
structure AnnotationSpec where
  type : String
  elements : List (String × ValueSpec) := []
  deriving Repr

/-- The member that an instruction refers to. The owner is a binary name or an array descriptor. -/
structure Target where
  owner : String
  name : String
  descriptor : String
  deriving DecidableEq, Repr

/-- An instruction of a code body, or a mark in it. -/
inductive Instruction where
  /-- Starts a source line at the next instruction. -/
  | line (number : UInt16)
  | getField (target : Target)
  | putField (target : Target)
  | getStatic (target : Target)
  | putStatic (target : Target)
  | invokeVirtual (target : Target)
  | invokeSpecial (target : Target)
  | invokeStatic (target : Target)
  /-- A static call through an interface's method reference. -/
  | invokeStaticInterface (target : Target)
  | invokeInterface (target : Target)
  | new (className : String)
  | tableSwitch (low high : Int32)
  | lookupSwitch (pairs : UInt32)
  | raw (bytes : Bytes)
  | return
  deriving Repr

/-- A call of a constructor. -/
def Instruction.construct (owner descriptor : String) : Instruction :=
  .invokeSpecial ⟨owner, "<init>", descriptor⟩

/-- A field to assemble. -/
structure FieldSpec where
  flags : UInt16 := 0x0001
  name : String
  descriptor : String
  signature : Option String := none
  annotations : List AnnotationSpec := []
  deriving Repr

namespace FieldSpec

/-- Replaces the access flags. -/
def withFlags (f : FieldSpec) (flags : UInt16) : FieldSpec := { f with flags }

/-- Sets the signature. -/
def withSignature (f : FieldSpec) (text : String) : FieldSpec := { f with signature := some text }

/-- Adds an annotation. -/
def annotate (f : FieldSpec) (a : AnnotationSpec) : FieldSpec :=
  { f with annotations := f.annotations ++ [a] }

end FieldSpec

/-- A method to assemble. -/
structure MethodSpec where
  flags : UInt16 := 0x0001
  name : String
  descriptor : String
  signature : Option String := none
  code : Option (List Instruction) := none
  /-- The binary names of the exceptions that it declares. -/
  throws : List String := []
  annotations : List AnnotationSpec := []
  deriving Repr

namespace MethodSpec

/-- A public constructor that returns at once. -/
def constructor (descriptor : String) : MethodSpec where
  name := "<init>"
  descriptor := descriptor
  code := some [.return]

/-- A static initializer that returns at once. -/
def staticInitializer : MethodSpec where
  flags := 0x0008
  name := "<clinit>"
  descriptor := "()V"
  code := some [.return]

/-- Replaces the access flags. -/
def withFlags (m : MethodSpec) (flags : UInt16) : MethodSpec := { m with flags }

/-- Sets the signature. -/
def withSignature (m : MethodSpec) (text : String) : MethodSpec := { m with signature := some text }

/-- Sets the code body. -/
def withCode (m : MethodSpec) (code : List Instruction) : MethodSpec := { m with code := some code }

/-- Adds a declared exception. -/
def throwing (m : MethodSpec) (exception : String) : MethodSpec :=
  { m with throws := m.throws ++ [exception] }

/-- Adds an annotation. -/
def annotate (m : MethodSpec) (a : AnnotationSpec) : MethodSpec :=
  { m with annotations := m.annotations ++ [a] }

end MethodSpec

/-- An entry of an inner-class table, its class names in internal form. -/
structure InnerSpec where
  inner : String
  outer : Option String
  innerName : Option String
  flags : UInt16
  deriving DecidableEq, Repr

/-- The place in which a local class is declared, its class name in internal form. -/
structure EnclosingSpec where
  owner : String
  method : Option (String × String)
  deriving DecidableEq, Repr

/-- A class to assemble, its class names in internal form. -/
structure ClassSpec where
  majorVersion : UInt16 := 61
  flags : UInt16 := 0x0021
  name : String
  superClass : Option String := some "java/lang/Object"
  interfaces : List String := []
  fields : List FieldSpec := []
  methods : List MethodSpec := []
  sourceFile : Option String := none
  signature : Option String := none
  visible : List AnnotationSpec := []
  invisible : List AnnotationSpec := []
  innerClasses : List InnerSpec := []
  enclosingMethod : Option EnclosingSpec := none
  /-- Further attributes: a name and a body for each. -/
  extraAttributes : List (String × Bytes) := []
  deriving Repr

namespace ClassSpec

/-- Replaces the major version. -/
def withMajorVersion (c : ClassSpec) (version : UInt16) : ClassSpec :=
  { c with majorVersion := version }

/-- Replaces the access flags. -/
def withFlags (c : ClassSpec) (flags : UInt16) : ClassSpec := { c with flags }

/-- Replaces the superclass. -/
def extending (c : ClassSpec) (name : String) : ClassSpec :=
  { c with superClass := some (Text.internalName name) }

/-- Drops the superclass, which only the root of all classes does. -/
def withoutSuper (c : ClassSpec) : ClassSpec := { c with superClass := none }

/-- Adds an interface. -/
def implementing (c : ClassSpec) (name : String) : ClassSpec :=
  { c with interfaces := c.interfaces ++ [Text.internalName name] }

/-- Adds a field. -/
def addField (c : ClassSpec) (f : FieldSpec) : ClassSpec := { c with fields := c.fields ++ [f] }

/-- Adds a method. -/
def addMethod (c : ClassSpec) (m : MethodSpec) : ClassSpec := { c with methods := c.methods ++ [m] }

/-- Sets the source file. -/
def withSourceFile (c : ClassSpec) (name : String) : ClassSpec := { c with sourceFile := some name }

/-- Sets the signature. -/
def withSignature (c : ClassSpec) (text : String) : ClassSpec := { c with signature := some text }

/-- Adds an annotation that is kept at run time. -/
def annotate (c : ClassSpec) (a : AnnotationSpec) : ClassSpec :=
  { c with visible := c.visible ++ [a] }

/-- Adds an annotation that is dropped at run time. -/
def annotateInvisibly (c : ClassSpec) (a : AnnotationSpec) : ClassSpec :=
  { c with invisible := c.invisible ++ [a] }

/-- Adds an entry to the inner-class table. -/
def addInnerClass (c : ClassSpec) (inner : String) (outer innerName : Option String)
    (flags : UInt16) : ClassSpec :=
  let entry : InnerSpec :=
    ⟨Text.internalName inner, outer.map Text.internalName, innerName, flags⟩
  { c with innerClasses := c.innerClasses ++ [entry] }

/-- Sets the place in which the class is declared. -/
def enclosedBy (c : ClassSpec) (owner : String) (method : Option (String × String)) : ClassSpec :=
  { c with enclosingMethod := some ⟨Text.internalName owner, method⟩ }

/-- Adds an attribute with a body of its own. -/
def addAttribute (c : ClassSpec) (name : String) (body : Bytes) : ClassSpec :=
  { c with extraAttributes := c.extraAttributes ++ [(name, body)] }

/-- A public class that extends the root of all classes. -/
def plain (name : String) : ClassSpec := { name := Text.internalName name }

/-- A public interface. -/
def interface (name : String) : ClassSpec := (plain name).withFlags 0x0601

/-- A public annotation type. -/
def annotationType (name : String) : ClassSpec :=
  ((plain name).withFlags 0x2601).implementing "java.lang.annotation.Annotation"

/-- A public enumeration. -/
def enumeration (name : String) : ClassSpec :=
  ((plain name).withFlags 0x4031).extending "java.lang.Enum"

end ClassSpec

end TypeAtlas.Assembly
