import TypeAtlas.ClassFile.AnnotationTable
import TypeAtlas.ClassFile.Reference

/-!
# Attribute tables

Classes, members and code bodies carry tables of named attributes, each with the length of its
body. `attributeTable` reads such a table for any choice of recognised names: the body of a
recognised attribute must be used up exactly, and every other attribute is skipped. The three
choices for the three places follow, each with the record that its attributes are gathered into.
An attribute that states one thing is decided by its last occurrence; those that list things are
joined in the order of the file.
-/

set_option autoImplicit false

namespace TypeAtlas.ClassFile

open Reader

/-- Reads one attribute: the value of a recognised one, and nothing for any other. -/
def attributeEntry {α : Type} (pool : ConstantPool) (recognise : String → Option (Reader α)) :
    Reader (Option α) := do
  let name ← u2
  let length ← u4
  let start := (← get).offset
  let body ← take length.toNat
  let name ← lift (pool.getUtf8 name)
  match recognise name with
  | some content => return some (← lift (enclosed start body content))
  | none => return none

/-- Reads a table of attributes: the values of the recognised ones, in order. -/
def attributeTable {α : Type} (pool : ConstantPool) (recognise : String → Option (Reader α)) :
    Reader (List α) := do
  let entries ← table (attributeEntry pool recognise)
  return entries.filterMap id

/-! ## Attributes of code -/

/-- Reads a line table. -/
def readLineNumbers : Reader (List LineNumber) := table do
  let startPc ← u2
  return ⟨startPc, ← u2⟩

/-- The attributes recognised on a code body. -/
def codeAttribute (name : String) : Option (Reader (List LineNumber)) :=
  match name with
  | "LineNumberTable" => some readLineNumbers
  | _ => none

/-- What is kept of a code body. -/
structure Code where
  maxStack : UInt16
  maxLocals : UInt16
  lines : List LineNumber
  references : List MemberReference
  deriving Repr

/-- Reads a code body. The entries of its exception table are skipped. -/
def readCode (pool : ConstantPool) : Reader Code := do
  let maxStack ← u2
  let maxLocals ← u2
  let length ← u4
  let code ← take length.toNat
  let handlers ← u2
  let _ ← take (handlers.toNat * 8)
  let tables ← attributeTable pool codeAttribute
  let lines := tables.flatten
  let references ← lift (scanReferences pool lines code)
  return ⟨maxStack, maxLocals, lines, references⟩

/-! ## Attributes of fields and methods -/

/-- An attribute recognised on a field or a method. -/
inductive MemberAttribute where
  | signature (text : String)
  | visible (annotations : List (AnnotationTree String))
  | invisible (annotations : List (AnnotationTree String))
  | exceptions (names : List String)
  | code (body : Code)

/-- Reads a body that is the index of a text. -/
def readText (pool : ConstantPool) : Reader String := do lift (pool.getUtf8 (← u2))

/-- Reads the index of a class and returns its name. -/
def readClassName (pool : ConstantPool) : Reader String := do lift (pool.getClassName (← u2))

/-- The attributes recognised on a field or a method. -/
def memberAttribute (pool : ConstantPool) (name : String) : Option (Reader MemberAttribute) :=
  match name with
  | "Signature" => some (.signature <$> readText pool)
  | "RuntimeVisibleAnnotations" => some (.visible <$> readAnnotations pool name)
  | "RuntimeInvisibleAnnotations" => some (.invisible <$> readAnnotations pool name)
  | "Exceptions" => some (.exceptions <$> table (readClassName pool))
  | "Code" => some (.code <$> readCode pool)
  | _ => none

/-- What the attributes of a field or a method say. -/
structure MemberAttributes where
  signature : Option String
  visible : List (AnnotationTree String)
  invisible : List (AnnotationTree String)
  exceptions : List String
  code : Option Code

namespace MemberAttribute

/-- The text of a signature attribute. -/
def signature? : MemberAttribute → Option String
  | .signature text => some text
  | _ => none

/-- The annotations of a visible annotation table. -/
def visibles : MemberAttribute → List (AnnotationTree String)
  | .visible annotations => annotations
  | _ => []

/-- The annotations of an invisible annotation table. -/
def invisibles : MemberAttribute → List (AnnotationTree String)
  | .invisible annotations => annotations
  | _ => []

/-- The names in an exception list. -/
def exceptionNames : MemberAttribute → List String
  | .exceptions names => names
  | _ => []

/-- The body of a code attribute. -/
def code? : MemberAttribute → Option Code
  | .code body => some body
  | _ => none

/-- Gathers the attributes of a field or a method. -/
def gather (attributes : List MemberAttribute) : MemberAttributes where
  signature := (attributes.filterMap signature?).getLast?
  visible := attributes.flatMap visibles
  invisible := attributes.flatMap invisibles
  exceptions := attributes.flatMap exceptionNames
  code := (attributes.filterMap code?).getLast?

end MemberAttribute

/-! ## Attributes of classes -/

/-- An entry of an inner-class table. The names are internal names. -/
structure InnerClass where
  inner : String
  outer : Option String
  innerName : Option String
  flags : UInt16
  deriving DecidableEq, Repr

/-- The place in which a local class is declared: a class, and a method of it unless the place is
an initializer. -/
structure EnclosingMethod where
  owner : String
  method : Option (String × String)
  deriving DecidableEq, Repr

/-- Reads an entry of an inner-class table; its four words are read before any is looked up. -/
def readInnerClass (pool : ConstantPool) : Reader InnerClass := do
  let inner ← u2
  let outer ← u2
  let innerName ← u2
  let flags ← u2
  let inner ← lift (pool.getClassName inner)
  let outer ← lift (pool.getClassName? outer)
  let innerName ← lift (if innerName = 0 then .ok none else some <$> pool.getUtf8 innerName)
  return ⟨inner, outer, innerName, flags⟩

/-- Reads the place in which a local class is declared. -/
def readEnclosingMethod (pool : ConstantPool) : Reader EnclosingMethod := do
  let owner ← readClassName pool
  let method ← u2
  let method ← lift (if method = 0 then .ok none else some <$> pool.getNameAndType method)
  return ⟨owner, method⟩

/-- An attribute recognised on a class. -/
inductive ClassAttribute where
  | signature (text : String)
  | sourceFile (name : String)
  | visible (annotations : List (AnnotationTree String))
  | invisible (annotations : List (AnnotationTree String))
  | innerClasses (entries : List InnerClass)
  | enclosingMethod (place : EnclosingMethod)

/-- The attributes recognised on a class. -/
def classAttribute (pool : ConstantPool) (name : String) : Option (Reader ClassAttribute) :=
  match name with
  | "Signature" => some (.signature <$> readText pool)
  | "SourceFile" => some (.sourceFile <$> readText pool)
  | "RuntimeVisibleAnnotations" => some (.visible <$> readAnnotations pool name)
  | "RuntimeInvisibleAnnotations" => some (.invisible <$> readAnnotations pool name)
  | "InnerClasses" => some (.innerClasses <$> table (readInnerClass pool))
  | "EnclosingMethod" => some (.enclosingMethod <$> readEnclosingMethod pool)
  | _ => none

/-- What the attributes of a class say. -/
structure ClassAttributes where
  signature : Option String
  sourceFile : Option String
  visible : List (AnnotationTree String)
  invisible : List (AnnotationTree String)
  innerClasses : List InnerClass
  enclosingMethod : Option EnclosingMethod

namespace ClassAttribute

/-- The text of a signature attribute. -/
def signature? : ClassAttribute → Option String
  | .signature text => some text
  | _ => none

/-- The name of a source file. -/
def sourceFile? : ClassAttribute → Option String
  | .sourceFile name => some name
  | _ => none

/-- The annotations of a visible annotation table. -/
def visibles : ClassAttribute → List (AnnotationTree String)
  | .visible annotations => annotations
  | _ => []

/-- The annotations of an invisible annotation table. -/
def invisibles : ClassAttribute → List (AnnotationTree String)
  | .invisible annotations => annotations
  | _ => []

/-- The entries of an inner-class table. -/
def innerClassEntries : ClassAttribute → List InnerClass
  | .innerClasses entries => entries
  | _ => []

/-- The place named by an enclosing-method attribute. -/
def enclosingMethod? : ClassAttribute → Option EnclosingMethod
  | .enclosingMethod place => some place
  | _ => none

/-- Gathers the attributes of a class. -/
def gather (attributes : List ClassAttribute) : ClassAttributes where
  signature := (attributes.filterMap signature?).getLast?
  sourceFile := (attributes.filterMap sourceFile?).getLast?
  visible := attributes.flatMap visibles
  invisible := attributes.flatMap invisibles
  innerClasses := attributes.flatMap innerClassEntries
  enclosingMethod := (attributes.filterMap enclosingMethod?).getLast?

end ClassAttribute

end TypeAtlas.ClassFile
