import TypeAtlas.Text.Printable

/-!
# Quoted text

A text in quotation marks, as messages show it: the quotation mark, the backslash and three white
characters are written with a backslash, and every other character that does not stand alone by its
number.
-/

set_option autoImplicit false

namespace TypeAtlas.Text.Quoted

/-- The number of a character between braces, in hexadecimal. -/
def numberEscape (c : Char) : List Char :=
  ['\\', 'u', '{'] ++ Nat.toDigits 16 c.toNat ++ ['}']

/-- The spelling of one character. -/
def spell (c : Char) : List Char :=
  if c = '\x00' then ['\\', '0']
  else if c = '\t' then ['\\', 't']
  else if c = '\r' then ['\\', 'r']
  else if c = '\n' then ['\\', 'n']
  else if c = '"' || c = '\\' then ['\\', c]
  else if standsAlone c then [c]
  else numberEscape c

/-- A text between quotation marks. -/
def quote (text : String) : String :=
  String.ofList (['"'] ++ text.toList.flatMap spell ++ ['"'])

end TypeAtlas.Text.Quoted
