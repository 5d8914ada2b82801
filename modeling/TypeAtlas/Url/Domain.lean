import TypeAtlas.Text.Composed
import TypeAtlas.Text.Direction
import TypeAtlas.Text.Joining
import TypeAtlas.Text.Utf8
import TypeAtlas.Url.Punycode
import TypeAtlas.Url.Spelling

/-!
# Domains

A domain is a sequence of labels with dots between them. Its characters are brought into one
spelling, a label beyond ASCII is written in Punycode after `xn--`, and a label that is written so
must stand for characters that would be written so. The characters of a label must make sense
together: it begins with no mark, its joiners have something to join, and where anything is written
from right to left, the directions within each label agree.
-/

set_option autoImplicit false

namespace TypeAtlas.Url

/-- Characters that no domain holds. -/
def forbiddenInDomain (c : Char) : Bool :=
  c.toNat ≤ 0x20 || c.toNat = 0x7F || "%#/:<>?@[\\]^|".toList.contains c

/-- Whether a text is written in ASCII. -/
def isAscii (chars : List Char) : Bool := chars.all fun c => c.toNat < 128

/-- The spelling of a text in a domain, unless there is a character in it that no domain holds. -/
def respell? (chars : List Char) : Option (List Char) := do
  let parts ← chars.mapM fun c =>
    match Spelling.of c with
    | .kept => some [c]
    | .dropped => some []
    | .replaced text => some text
    | .refused => none
  return Text.composed parts.flatten

/-- A label: the ASCII characters that it is written in, and what they stand for. -/
structure Label where
  written : List Char
  meaning : List Char
  deriving DecidableEq, Repr

namespace Label

/-- What a label in Punycode begins with. -/
def punycodeMark : List Char := ['x', 'n', '-', '-']

/-- The greatest length of a label beyond ASCII. -/
def longestMeaning : Nat := 1000

/-- The greatest length of a label in Punycode, what it begins with aside. -/
def longestCode : Nat := 2000

/-- The label that is written in Punycode. What it stands for must be in its one spelling. -/
def ofPunycode? (code : List Char) : Option Label := do
  guard (isAscii code && code.getLast?.any (· ≠ '-') && code.length ≤ longestCode)
  let meaning ← Punycode.decode? code
  guard (respell? meaning = some meaning && meaning.all fun c => Spelling.of c = .kept)
  return ⟨punycodeMark ++ code, meaning⟩

/-- The label of some characters. -/
def ofMeaning (meaning : List Char) : Label :=
  ⟨if isAscii meaning then meaning else punycodeMark ++ Punycode.encode meaning, meaning⟩

/-- Reads a label, whose characters are in their spelling. -/
def ofText? (text : List Char) : Option Label :=
  if punycodeMark.isPrefixOf text then ofPunycode? (text.drop punycodeMark.length)
  else some (ofMeaning text)

/-! ## Joiners -/

/-- The joiner that changes the form of the letters on both its sides. -/
def nonJoiner : Char := '\u200C'

/-- Whether a joiner has something to join: a sign before it that takes a vowel away, or, for the
one between letters, letters on both sides that join. What comes before is given backwards. -/
def hasUse (joiner : Char) (before after : List Char) : Bool :=
  match before with
  | [] => false
  | previous :: _ =>
    Text.combiningClass previous = Text.viramaClass ||
      (joiner = nonJoiner
        && (before.find? (!Text.isTransparent ·)).any Text.joinsNext
        && (after.find? (!Text.isTransparent ·)).any Text.joinsPrevious)

/-- Whether each joiner has something to join. What comes before is given backwards. -/
def joinersFit (before : List Char) : List Char → Bool
  | [] => true
  | c :: after =>
    (!Spelling.joiners.contains c || hasUse c before after) && joinersFit (c :: before) after

/-! ## Directions -/

/-- Whether the directions of the characters after the first one fit a label of a kind. Marks at the
end do not count. -/
def directionsFit (within atEnd : List Text.Direction) (rest : List Text.Direction) : Bool :=
  match rest.reverse.dropWhile (· = .mark) with
  | [] => true
  | last :: others => atEnd.contains last && others.all within.contains

/-- Whether the directions within a label agree. It is written either way as a whole, and digits of
two kinds do not stand together in one from right to left. -/
def isDirected (label : Label) : Bool :=
  match label.meaning.map Text.direction with
  | [] => true
  | .leftToRight :: rest =>
    directionsFit [.leftToRight, .europeanNumber, .neutral, .mark] [.leftToRight, .europeanNumber]
      rest
  | .rightToLeft :: rest =>
    directionsFit [.rightToLeft, .europeanNumber, .arabicNumber, .neutral, .mark]
        [.rightToLeft, .europeanNumber, .arabicNumber] rest
      && !(rest.contains .europeanNumber && rest.contains .arabicNumber)
  | _ => false

/-- Whether some of a label is written from right to left. -/
def runsLeft (label : Label) : Bool :=
  label.meaning.any fun c => [Text.Direction.rightToLeft, .arabicNumber].contains (Text.direction c)

/-- Whether the characters of a label make sense together, their directions aside. -/
def isCoherent (label : Label) : Bool :=
  !label.meaning.any forbiddenInDomain
    && !label.meaning.head?.any Text.isMark
    && joinersFit [] label.meaning
    && (isAscii label.meaning || label.meaning.length ≤ longestMeaning)

end Label

/-- Reads a domain, and gives it in ASCII. -/
def readDomain? (bytes : Bytes) : Option (List Char) := do
  let text ← Text.Utf8.decode bytes
  let chars ← respell? text.toList
  let labels ← (Text.splitAt '.' chars).mapM Label.ofText?
  guard (labels.all Label.isCoherent)
  guard (!labels.any Label.runsLeft || labels.all Label.isDirected)
  return List.intercalate ['.'] (labels.map Label.written)

end TypeAtlas.Url
