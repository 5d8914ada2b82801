import TypeAtlas.Text.Split

/-!
# Punycode

The spelling of a label beyond ASCII: its ASCII characters, a hyphen, and for each other character,
in ascending order, its distance from the one before as a number of variable length in base 36.
`encode` and `decode?` are the two directions.
-/

set_option autoImplicit false

namespace TypeAtlas.Url.Punycode

/-- The digit of a number below 36: the letters first. -/
def digitChar (n : Nat) : Char := Char.ofNat (if n < 26 then 97 + n else 22 + n)

/-- The least value at which a digit in a place is not the last. -/
def threshold (place bias : Nat) : Nat := min 26 (max 1 (place - bias))

/-- The digits of a distance from a place on. -/
def digits (bias place distance : Nat) : List Char :=
  let t := threshold place bias
  if distance < t then [digitChar distance]
  else
    digitChar (t + (distance - t) % (36 - t))
      :: digits bias (place + 36) ((distance - t) / (36 - t))
termination_by distance
decreasing_by
  have positive : 1 ≤ threshold place bias := by unfold threshold; omega
  exact Nat.lt_of_le_of_lt (Nat.div_le_self _ _) (by omega)

/-- The bias for the next distance: the places are counted by which the last one is too long. -/
def settle (bias distance : Nat) : Nat :=
  if 455 < distance then settle (bias + 36) (distance / 35)
  else bias + 36 * distance / (distance + 38)
termination_by distance
decreasing_by omega

/-- The bias after a distance, given how many characters are written. -/
def adapt (distance written : Nat) (first : Bool) : Nat :=
  let damped := if first then distance / 700 else distance / 2
  settle 0 (damped + damped / written)

/-- How far the encoding has come. -/
structure Progress where
  output : List Char := []
  distance : Nat := 0
  bias : Nat := 72
  written : Nat

/-- Passes a character of the label while the characters numbered `n` are being written. -/
def Progress.pass (basic n : Nat) (p : Progress) (c : Char) : Progress :=
  if c.toNat < n then { p with distance := p.distance + 1 }
  else if c.toNat = n then
    { output := p.output ++ digits p.bias 36 p.distance
      distance := 0
      bias := adapt p.distance (p.written + 1) (p.written == basic)
      written := p.written + 1 }
  else p

/-- Writes the characters of the numbers given, which ascend from the number `n`. -/
def Progress.writeAll (label : List Char) (basic : Nat) : Nat → List Nat → Progress → Progress
  | _, [], p => p
  | n, m :: rest, p =>
    let moved := { p with distance := p.distance + (m - n) * (p.written + 1) }
    let passed := label.foldl (Progress.pass basic m) moved
    writeAll label basic (m + 1) rest { passed with distance := passed.distance + 1 }

/-- The spelling of a label. -/
def encode (label : List Char) : List Char :=
  let basic := label.filter fun c => c.toNat < 128
  let others := ((label.map Char.toNat).filter (128 ≤ ·)).mergeSort.eraseDups
  let start := if basic.isEmpty then [] else basic ++ ['-']
  start ++ (Progress.writeAll label basic.length 128 others ⟨[], 0, 72, basic.length⟩).output

/-! ## Reading -/

/-- The number of a digit; digits are small letters and the digits of decimal numbers. -/
def digitValue? (c : Char) : Option Nat :=
  if 'a' ≤ c ∧ c ≤ 'z' then some (c.toNat - 97)
  else if c.isDigit then some (c.toNat - 22)
  else none

/-- Neither a distance nor the weight of a digit reaches this number. -/
def limit : Nat := 0x100000000

/-- Adds a distance to a number: the digit in a place counts as often as its weight says. Gives the
digits after the last one of the distance as well. -/
def addDistance (bias : Nat) : List Char → Nat → Nat → Nat → Option (Nat × List Char)
  | [], _, _, _ => none
  | c :: rest, place, weight, n =>
    match digitValue? c with
    | none => none
    | some digit =>
      let n := n + digit * weight
      let next := weight * (36 - threshold place bias)
      if limit ≤ n then none
      else if digit < threshold place bias then some (n, rest)
      else if limit ≤ next then none
      else addDistance bias rest (place + 36) next n

/-- A distance takes up one digit at least. -/
theorem length_addDistance_lt {bias : Nat} {chars rest : List Char} {place weight n m : Nat}
    (h : addDistance bias chars place weight n = some (m, rest)) : rest.length < chars.length := by
  induction chars generalizing place weight n with
  | nil => simp [addDistance] at h
  | cons c tail ih =>
    rw [addDistance] at h
    split at h
    · cases h
    · dsimp only at h
      split at h
      · cases h
      · split at h
        · simp only [Option.some.injEq, Prod.mk.injEq] at h
          simp [← h.2]
        · split at h
          · cases h
          · exact Nat.lt_succ_of_lt (ih h)

/-- How far the decoding has come: what has been read so far, and the number and the place at which
the next distance begins. -/
structure Reading where
  output : List Char
  number : Nat := 128
  place : Nat := 0
  bias : Nat := 72

/-- Inserts the character that the next distance leads to, if it is one. -/
def Reading.insert? (r : Reading) (reached : Nat) : Option Reading :=
  let count := r.output.length + 1
  let number := r.number + reached / count
  let place := reached % count
  if number < 0xD800 ∨ (0xDFFF < number ∧ number < 0x110000) then
    some {
      output := r.output.insertIdx place (Char.ofNat number)
      number
      place := place + 1
      bias := adapt (reached - r.place) count (r.place == 0) }
  else none

/-- Reads distances up to the end. -/
def Reading.finish (r : Reading) (digits : List Char) : Option (List Char) :=
  match digits with
  | [] => some r.output
  | c :: rest =>
    match _h : addDistance r.bias (c :: rest) 36 1 r.place with
    | none => none
    | some (reached, after) =>
      match r.insert? reached with
      | none => none
      | some next => next.finish after
termination_by digits.length
decreasing_by exact length_addDistance_lt (by assumption)

/-- The label of a spelling, whose letters are small. -/
def decode? (spelling : List Char) : Option (List Char) :=
  match Text.splitLast '-' spelling with
  | some (c :: basic, digits) => Reading.finish { output := c :: basic } digits
  | _ => Reading.finish { output := [] } spelling

end TypeAtlas.Url.Punycode
