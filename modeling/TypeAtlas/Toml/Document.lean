import TypeAtlas.Toml.Scalar

/-!
# TOML documents

A document is read in two steps. Its lines are headers and entries (`Line.parseAll`); the entries
before the first header are the root table's, those after a header belong to the table that the
header names. `Document.parse` then enters the tables one after another into the root.
-/

set_option autoImplicit false

namespace TypeAtlas.Toml

/-! ## Keys -/

/-- A character of a bare key. -/
def isBare (c : Char) : Bool := c.isAlphanum || c = '_' || c = '-'

/-- Reads one part of a key: bare, or a string in one line. -/
def keyPart? (chars : List Char) : Option (String × List Char) :=
  match chars.takeWhile isBare with
  | [] => lineString? chars
  | bare => some (String.ofList bare, chars.dropWhile isBare)

/-- Reads the parts of a dotted key, as many as are allowed, with the blanks around them. -/
def keyParts : Nat → Parse (List String)
  | 0, _ => none
  | allowed + 1, chars => do
    let (part, rest) ← keyPart? (skipBlanks chars)
    match skipBlanks rest with
    | '.' :: rest =>
      let (parts, rest) ← keyParts allowed rest
      return (part :: parts, rest)
    | rest => return ([part], rest)

/-- The greatest number of parts of a key, and the greatest depth of nested values. -/
def nestingLimit : Nat := 79

/-- Reads a dotted key, with the blanks around it. -/
def key? (chars : List Char) : Option (DottedKey × List Char) := do
  let (parts, rest) ← keyParts nestingLimit chars
  return (← DottedKey.ofParts parts, rest)

/-! ## Values -/

/-- Drops blanks, ends of lines and comments. A comment must reach to the end of its line. -/
def skipSpace (inComment : Bool) : List Char → List Char
  | '\n' :: rest => skipSpace false rest
  | '\r' :: '\n' :: rest => skipSpace false rest
  | c :: rest =>
    if inComment then if isPlain c then skipSpace true rest else c :: rest
    else if isBlank c then skipSpace false rest
    else if c = '#' then skipSpace true rest
    else c :: rest
  | [] => []

/-- Reads the items of an array up to its closing bracket. A comma may follow the last one. The
first argument bounds the number of items. -/
def arrayItems (item : Parse Value) : Nat → Parse (List Value)
  | 0, _ => none
  | bound + 1, chars =>
    match skipSpace false chars with
    | ']' :: rest => some ([], rest)
    | chars => do
      let (value, rest) ← item chars
      match skipSpace false rest with
      | ',' :: rest =>
        let (others, rest) ← arrayItems item bound rest
        return (value :: others, rest)
      | ']' :: rest => return ([value], rest)
      | _ => none

/-- Reads a key, the sign of equality and a value. -/
def keyValue? (item : Parse Value) : Parse (DottedKey × Value) := fun chars => do
  let (key, rest) ← key? chars
  let (value, rest) ← item (skipBlanks (← mark? '=' rest))
  return ((key, value), rest)

/-- Reads the entries of an inline table up to its closing brace. No comma may follow the last one.
The first argument bounds the number of entries. -/
def inlineEntries (item : Parse Value) : Nat → Parse (List (DottedKey × Value))
  | 0, _ => none
  | bound + 1, chars => do
    let (entry, rest) ← keyValue? item chars
    match skipBlanks rest with
    | ',' :: rest =>
      let (others, rest) ← inlineEntries item bound rest
      return (entry :: others, rest)
    | rest => return ([entry], ← mark? '\x7D' rest)

/-- Reads an inline table, after its opening brace. -/
def inlineTable? (item : Parse Value) : Parse Value := fun chars =>
  match mark? '\x7D' (skipBlanks chars) with
  | some rest => some (.table .inline [], rest)
  | none => do
    let (entries, rest) ← inlineEntries item chars.length chars
    return (.table .inline (← Entries.insertAll [] entries), rest)

/-- Reads a value of at most a given depth. -/
def value? : Nat → Parse Value
  | 0, chars => scalar? chars
  | depth + 1, chars =>
    match mark? '[' chars, mark? '\x7B' chars with
    | some rest, _ =>
      (arrayItems (value? depth) (rest.length + 1) rest).map fun (items, rest) =>
        (.array items, rest)
    | none, some rest => inlineTable? (value? depth) rest
    | none, none => scalar? chars

/-! ## Lines -/

/-- What a header names: a table, or one more table of an array. -/
inductive Header where
  | table (key : DottedKey)
  | element (key : DottedKey)
  deriving DecidableEq, Repr

/-- A line that says something. -/
inductive Line where
  | header (header : Header)
  | entry (key : DottedKey) (value : Value)
  deriving Repr

/-- Takes the end of a line, or of the document, off the front of a text. -/
def lineEnd? : List Char → Option (List Char)
  | [] => some []
  | chars => newline? chars

/-- Takes the rest of a line off the front of a text, if there are only blanks and a comment. -/
def endOfLine? (chars : List Char) : Option (List Char) :=
  match skipBlanks chars with
  | '#' :: rest => lineEnd? (rest.dropWhile isPlain)
  | rest => lineEnd? rest

namespace Line

/-- Reads a header, after its first bracket. -/
def header? : Parse Header
  | '[' :: rest => do
    let (key, rest) ← key? rest
    return (.element key, ← mark? ']' (← mark? ']' rest))
  | chars => do
    let (key, rest) ← key? chars
    return (.table key, ← mark? ']' rest)

/-- Reads a line, which need not say anything. -/
def parse? (chars : List Char) : Option (Option Line × List Char) :=
  match skipBlanks chars with
  | '[' :: rest => do
    let (named, rest) ← header? rest
    return (some (.header named), ← endOfLine? rest)
  | chars =>
    match endOfLine? chars with
    | some rest => some (none, rest)
    | none => do
      let ((key, value), rest) ← keyValue? (value? nestingLimit) chars
      return (some (.entry key value), ← endOfLine? rest)

/-- Reads all lines. The first argument bounds their number. -/
def parseAll : Nat → List Char → Option (List Line)
  | _, [] => some []
  | 0, _ => none
  | bound + 1, chars => do
    let (line, rest) ← parse? chars
    return line.toList ++ (← parseAll bound rest)

end Line

/-! ## Documents -/

/-- A header and the entries below it. -/
structure Block where
  header : Header
  body : List (DottedKey × Value)
  deriving Repr

/-- The entries before the first header, and the blocks. -/
def Block.group : List Line → List (DottedKey × Value) × List Block
  | [] => ([], [])
  | .entry key value :: rest =>
    let (body, blocks) := group rest
    ((key, value) :: body, blocks)
  | .header header :: rest =>
    let (body, blocks) := group rest
    ([], ⟨header, body⟩ :: blocks)

/-- Enters a block into the root table. -/
def Block.enter (root : Entries) (block : Block) : Option Entries :=
  match block.header with
  | .table key => root.within (Entries.define key.name block.body) key.parents
  | .element key => root.within (Entries.push key.name block.body) key.parents

/-- Drops a byte order mark. -/
def skipByteOrderMark : List Char → List Char
  | '\uFEFF' :: rest => rest
  | chars => chars

/-- The root table of a document, unless the document is malformed or a key has two meanings. -/
def Document.parse (text : String) : Option Entries := do
  let chars := skipByteOrderMark text.toList
  let (body, blocks) := Block.group (← Line.parseAll chars.length chars)
  blocks.foldlM Block.enter (← Entries.insertAll [] body)

end TypeAtlas.Toml
