import TypeAtlas.Graph.Duplicate
import TypeAtlas.Decimal.Shortest
import TypeAtlas.Text.Quoted
import TypeAtlas.Text.Utf8
import TypeAtlas.Toml.Document

/-!
# Import options

What an import does with units that it cannot read, and what it takes in. Options can be read from a
TOML document; its keys are looked at in the order of the document, and the first one that makes no
sense is reported.
-/

set_option autoImplicit false

namespace TypeAtlas

/-- What to do about a unit that is no readable class file. -/
inductive MalformedPolicy where
  | fail | skip
  deriving DecidableEq, Repr

/-- The options of an import. -/
structure ImportOptions where
  onMalformed : MalformedPolicy := .fail
  /-- How many readers to use; it makes no difference to the result. -/
  threads : Option Nat := none
  /-- Whether `package-info` and `module-info` units are imported as types. -/
  includePackageInfo : Bool := false
  duplicates : DuplicatePolicy := .fail
  deriving DecidableEq, Repr

/-- A cause for which options are rejected. -/
inductive OptionsError where
  /-- The file is missing, or no text. -/
  | unreadable
  /-- The text is no TOML document. -/
  | malformed
  /-- No option has this name. -/
  | unknownField (name : String)
  /-- The option takes one of some words, and this is none of them. -/
  | unknownWord (word : String) (words : List String)
  /-- The option takes one of some words, and has another kind of value. -/
  | notAWord
  /-- The option has a number that it cannot take. -/
  | wrongValue (value : Int) (expected : String)
  /-- The option has a value of another kind. -/
  | wrongType (found : Toml.Value) (expected : String)
  deriving Repr

/-- Names between backticks, with commas, or with a word between two. -/
def quotedNames (names : List String) : String :=
  let quoted := names.map fun name => "`" ++ name ++ "`"
  match quoted with
  | [first, second] => first ++ " or " ++ second
  | _ => "one of " ++ String.intercalate ", " quoted

/-- What a message calls a value of the wrong kind. -/
def Toml.Value.description : Toml.Value → String
  | .string text => "string " ++ Text.Quoted.quote text
  | .integer value => "integer `" ++ toString value ++ "`"
  | .float value => "floating point `" ++ value.text ++ "`"
  | .boolean value => if value then "boolean `true`" else "boolean `false`"
  | .datetime | .table _ _ => "map"
  | .array _ | .tables _ => "sequence"

namespace ImportOptions

/-- The names of the options. -/
def fieldNames : List String := ["on_malformed", "threads", "include_package_info", "duplicates"]

end ImportOptions

/-- The wording of an error, for those that have one of their own. -/
def OptionsError.message? : OptionsError → Option String
  | .unreadable | .malformed | .notAWord => none
  | .unknownField name =>
    some ("failed to parse import options: unknown field `" ++ name ++ "`, expected "
      ++ quotedNames ImportOptions.fieldNames)
  | .unknownWord word words =>
    some ("failed to parse import options: unknown variant `" ++ word ++ "`, expected "
      ++ quotedNames words)
  | .wrongValue value expected =>
    some ("failed to parse import options: invalid value: integer `" ++ toString value
      ++ "`, expected " ++ expected)
  | .wrongType found expected =>
    some ("failed to parse import options: invalid type: " ++ found.description ++ ", expected "
      ++ expected)

namespace ImportOptions

/-- The meaning of a word, out of a list of words with their meanings. -/
def wordOf {α : Type} (meanings : List (String × α)) (word : String) : Except OptionsError α :=
  match meanings.lookup word with
  | some meaning => .ok meaning
  | none => .error (.unknownWord word (meanings.map Prod.fst))

/-- Whether a value holds nothing. -/
def isEmptyValue : Toml.Value → Bool
  | .array items => items.isEmpty
  | .table _ entries => entries.isEmpty
  | .tables items => items.isEmpty
  | _ => false

/-- Reads an option that takes one of some words: a string, or a table whose only key is the word
and whose value holds nothing. -/
def readWord {α : Type} (meanings : List (String × α)) : Toml.Value → Except OptionsError α
  | .string word => wordOf meanings word
  | .table _ [(word, value)] => do
    let meaning ← wordOf meanings word
    if isEmptyValue value then return meaning else throw .notAWord
  | _ => .error .notAWord

/-- Reads an option that takes a natural number. -/
def readCount : Toml.Value → Except OptionsError Nat
  | .integer value => if value < 0 then .error (.wrongValue value "usize") else .ok value.toNat
  | value => .error (.wrongType value "usize")

/-- Reads an option that takes a truth value. -/
def readFlag : Toml.Value → Except OptionsError Bool
  | .boolean value => .ok value
  | value => .error (.wrongType value "a boolean")

/-- The words for what to do about malformed units. -/
def malformedWords : List (String × MalformedPolicy) := [("fail", .fail), ("skip", .skip)]

/-- The words for what to do about classes of one name. -/
def duplicateWords : List (String × DuplicatePolicy) :=
  [("fail", .fail), ("first-wins", .firstWins)]

/-- Sets the option of a key. -/
def set (options : ImportOptions) (key : String) (value : Toml.Value) :
    Except OptionsError ImportOptions :=
  match key with
  | "on_malformed" => return { options with onMalformed := ← readWord malformedWords value }
  | "threads" => return { options with threads := some (← readCount value) }
  | "include_package_info" => return { options with includePackageInfo := ← readFlag value }
  | "duplicates" => return { options with duplicates := ← readWord duplicateWords value }
  | _ => throw (.unknownField key)

/-- Reads options from a document. An option that it does not set keeps its default. -/
def parse (text : String) : Except OptionsError ImportOptions :=
  match Toml.Document.parse text with
  | none => .error .malformed
  | some entries => entries.foldlM (fun options (key, value) => options.set key value) {}

/-- Reads options from the content of a file, if there is a file. -/
def parseFile (content : Option Bytes) : Except OptionsError ImportOptions :=
  match content.bind Text.Utf8.decode with
  | none => .error .unreadable
  | some text => parse text

end ImportOptions

end TypeAtlas
