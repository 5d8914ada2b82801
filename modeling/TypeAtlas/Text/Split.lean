/-!
# Splitting texts

A text is split at every occurrence of a separator, so there is always one part more than there are
separators.
-/

set_option autoImplicit false

namespace TypeAtlas.Text

/-- The parts of a text between the occurrences of a character. -/
def splitAt (separator : Char) : List Char → List (List Char)
  | [] => [[]]
  | c :: rest =>
    if c = separator then [] :: splitAt separator rest
    else
      match splitAt separator rest with
      | first :: others => (c :: first) :: others
      | [] => [[c]]

/-- The parts of a text before and after the last occurrence of a character. -/
def splitLast (separator : Char) (chars : List Char) : Option (List Char × List Char) :=
  match chars.reverse.dropWhile (· ≠ separator) with
  | [] => none
  | _ :: before => some (before.reverse, (chars.reverse.takeWhile (· ≠ separator)).reverse)

end TypeAtlas.Text
