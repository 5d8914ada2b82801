import TypeAtlas.Text.CombiningClass
import TypeAtlas.Text.Composite

/-!
# Composed form

Texts that differ only in how their composites are written have one composed form. Composites are
taken apart, marks are put into the order of their classes, and whatever can be is put together
again.
-/

set_option autoImplicit false

namespace TypeAtlas.Text

/-! ## Syllables of Hangul -/

namespace Hangul

/-- The number of the first letter that begins a syllable. -/
def leadBase : Nat := 0x1100

/-- The number of the first vowel. -/
def vowelBase : Nat := 0x1161

/-- The number before that of the first letter that ends a syllable. -/
def tailBase : Nat := 0x11A7

/-- The number of the first syllable. -/
def syllableBase : Nat := 0xAC00

/-- How many letters begin a syllable. -/
def leadCount : Nat := 19

/-- How many vowels there are. -/
def vowelCount : Nat := 21

/-- In how many ways a syllable ends: with nothing, or with a letter. -/
def tailCount : Nat := 28

/-- The place of a syllable among all syllables. -/
def index? (c : Char) : Option Nat :=
  let n := c.toNat - syllableBase
  if syllableBase ≤ c.toNat ∧ n < leadCount * vowelCount * tailCount then some n else none

/-- The letters of the syllable at a place. -/
def letters (n : Nat) : List Char :=
  let lead := Char.ofNat (leadBase + n / (vowelCount * tailCount))
  let vowel := Char.ofNat (vowelBase + n % (vowelCount * tailCount) / tailCount)
  let tail := n % tailCount
  [lead, vowel] ++ (if tail = 0 then [] else [Char.ofNat (tailBase + tail)])

/-- The syllable of a letter that begins it and a vowel. -/
def ofLead? (lead vowel : Char) : Option Char :=
  let l := lead.toNat - leadBase
  let v := vowel.toNat - vowelBase
  if leadBase ≤ lead.toNat ∧ l < leadCount ∧ vowelBase ≤ vowel.toNat ∧ v < vowelCount then
    some (Char.ofNat (syllableBase + (l * vowelCount + v) * tailCount))
  else none

/-- The syllable that a letter makes out of one without an end. -/
def ofSyllable? (syllable tail : Char) : Option Char := do
  let n ← index? syllable
  let t := tail.toNat - tailBase
  guard (n % tailCount = 0 ∧ tailBase < tail.toNat ∧ t < tailCount)
  return Char.ofNat (syllable.toNat + t)

end Hangul

/-! ## Taking apart -/

/-- How often a composite can be taken apart at most. -/
def compositeDepth : Nat := 3

/-- What a character is made of. The first argument bounds how often it is taken apart. -/
def takeApart : Nat → Char → List Char
  | 0, c => [c]
  | depth + 1, c =>
    match composites.find? fun (composite, _) => composite = c.toNat with
    | some (_, base, mark) => takeApart depth (Char.ofNat base) ++ [Char.ofNat mark]
    | none => [c]

/-- The characters and marks that a character stands for. -/
def decompose (c : Char) : List Char :=
  match Hangul.index? c with
  | some n => Hangul.letters n
  | none => takeApart compositeDepth c

/-- Puts a character before marks in order; a mark moves behind those of lower classes. -/
def insertMark (c : Char) : List Char → List Char
  | [] => [c]
  | d :: rest =>
    if combiningClass d ≠ 0 ∧ combiningClass d < combiningClass c then d :: insertMark c rest
    else c :: d :: rest

/-- Puts all marks into the order of their classes. Marks of one class keep theirs. -/
def orderMarks (chars : List Char) : List Char := chars.foldr insertMark []

/-! ## Putting together -/

/-- The composite of two characters. -/
def compose? (base mark : Char) : Option Char :=
  (Hangul.ofLead? base mark).orElse fun _ =>
    (Hangul.ofSyllable? base mark).orElse fun _ =>
      (composites.find? fun (_, b, m) => b = base.toNat && m = mark.toNat).map fun (composite, _) =>
        Char.ofNat composite

/-- Whether a character touches what some marks stand on. -/
def reaches (marks : List Char) (c : Char) : Bool :=
  match marks.getLast? with
  | some mark => combiningClass mark < combiningClass c
  | none => true

/-- Puts characters together with the last one that began something new, if there is one, after
which come marks that could not be put together with it. -/
def recompose (base? : Option Char) (marks : List Char) : List Char → List Char
  | [] => base?.toList ++ marks
  | c :: rest =>
    match base?.bind fun base => if reaches marks c then compose? base c else none with
    | some composite => recompose (some composite) marks rest
    | none =>
      if combiningClass c = 0 then base?.toList ++ marks ++ recompose (some c) [] rest
      else recompose base? (marks ++ [c]) rest

/-- The composed form of a text. -/
def composed (chars : List Char) : List Char :=
  recompose none [] (orderMarks (chars.flatMap decompose))

end TypeAtlas.Text
