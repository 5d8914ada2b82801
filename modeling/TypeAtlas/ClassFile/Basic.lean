import TypeAtlas.ClassFile.AttributeTable

/-!
# Class files

`ClassFile.parse` reads a class file as a sequence of sections: header, constant pool, class info,
interfaces, fields, methods and class attributes, after which the file must end. Names stay in
their internal form. A rejection names the section it happened in and where that section starts.
-/

set_option autoImplicit false

namespace TypeAtlas

open ClassFile (Code InnerClass EnclosingMethod)

/-- A field or a method. `τ` is the type that its descriptor spells. -/
structure Member (τ : Type) where
  flags : UInt16
  name : String
  descriptor : String
  type : τ
  signature : Option String
  visible : List (AnnotationTree String)
  invisible : List (AnnotationTree String)
  /-- The internal names of the exceptions that it declares. -/
  exceptions : List String
  code : Option Code
  deriving Repr

/-- The content of a class file; its names are internal names. -/
structure ClassFile where
  minorVersion : UInt16
  majorVersion : UInt16
  flags : UInt16
  thisClass : String
  superClass : Option String
  interfaces : List String
  fields : List (Member FieldType)
  methods : List (Member MethodType)
  signature : Option String
  sourceFile : Option String
  visible : List (AnnotationTree String)
  invisible : List (AnnotationTree String)
  innerClasses : List InnerClass
  enclosingMethod : Option EnclosingMethod
  deriving Repr

namespace ClassFile

open Reader

/-- The number at the start of every class file. -/
def magic : UInt32 := 0xCAFEBABE

/-- Reads the header: the magic number, then the minor and the major version. -/
def readHeader : Reader (UInt16 × UInt16) := do
  let found ← u4
  if found ≠ magic then fail (.wrongMagic found)
  else
    let minor ← u2
    return (minor, ← u2)

/-- Reads the access flags, the name of the class and the name of its superclass. -/
def readClassInfo (pool : ConstantPool) : Reader (UInt16 × String × Option String) := do
  let flags ← u2
  let thisClass ← readClassName pool
  let superClass ← lift (pool.getClassName? (← u2))
  return (flags, thisClass, superClass)

/-- Reads a field or a method, given what its descriptor must spell. -/
def readMember {τ : Type} (pool : ConstantPool) (parseType : String → Except Fault τ) :
    Reader (Member τ) := do
  let flags ← u2
  let name ← readText pool
  let descriptor ← readText pool
  let type ← lift (parseType descriptor)
  let attributes := MemberAttribute.gather (← attributeTable pool (memberAttribute pool))
  return {
    flags
    name
    descriptor
    type
    signature := attributes.signature
    visible := attributes.visible
    invisible := attributes.invisible
    exceptions := attributes.exceptions
    code := attributes.code }

/-- Reads the members of a table that are left, each a section of its own, numbered from `index`
on. -/
def readMembers {τ : Type} (part : UInt16 → Section) (item : Reader (Member τ)) :
    Nat → Nat → FileReader (List (Member τ))
  | _, 0 => pure []
  | index, count + 1 => do
    let first ← item.inSection (part (UInt16.ofNat index))
    let others ← readMembers part item (index + 1) count
    return first :: others

/-- Reads a table of fields or methods. A missing count is blamed on the first of them. -/
def readMemberTable {τ : Type} (part : UInt16 → Section) (item : Reader (Member τ)) :
    FileReader (List (Member τ)) := do
  let count ← u2.inSection (part 0)
  readMembers part item 0 count.toNat

/-- Reads the attributes of a class, which end the file. -/
def readClassAttributes (pool : ConstantPool) : Reader ClassAttributes := do
  let attributes ← attributeTable pool (classAttribute pool)
  expectEnd
  return ClassAttribute.gather attributes

/-- Reads a class file. -/
def read : FileReader ClassFile := do
  let (minorVersion, majorVersion) ← readHeader.inSection .header
  let pool ← ConstantPool.read.inSection .constantPool
  let (flags, thisClass, superClass) ← (readClassInfo pool).inSection .classInfo
  let interfaces ← (table (readClassName pool)).inSection .interfaces
  let fields ← readMemberTable .field (readMember pool FieldType.parse)
  let methods ← readMemberTable .method (readMember pool MethodType.parse)
  let attributes ← (readClassAttributes pool).inSection .classAttributes
  return {
    minorVersion
    majorVersion
    flags
    thisClass
    superClass
    interfaces
    fields
    methods
    signature := attributes.signature
    sourceFile := attributes.sourceFile
    visible := attributes.visible
    invisible := attributes.invisible
    innerClasses := attributes.innerClasses
    enclosingMethod := attributes.enclosingMethod }

/-- The content of a class file. -/
def parse (bytes : Bytes) : Except Rejection ClassFile :=
  (read.run ⟨0, bytes⟩).map (·.1)

/-- The first inner-class entry that describes the class itself. -/
def ownInnerClass? (file : ClassFile) : Option InnerClass :=
  file.innerClasses.find? fun entry => entry.inner == file.thisClass

end ClassFile

end TypeAtlas
