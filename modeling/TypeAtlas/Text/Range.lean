/-!
# Ranges of characters

A property of characters as a list of ranges, each given by the numbers of its first and its last
character. The ranges ascend and do not meet.
-/

set_option autoImplicit false

namespace TypeAtlas.Text

/-- Whether a character lies in one of some ranges. -/
def inRanges (ranges : List (Nat × Nat)) (c : Char) : Bool :=
  ranges.any fun (first, last) => first ≤ c.toNat && c.toNat ≤ last

end TypeAtlas.Text
