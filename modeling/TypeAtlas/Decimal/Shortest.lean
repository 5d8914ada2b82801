import TypeAtlas.Decimal.Binary64

/-!
# The shortest decimal that reads back

Every finite double-precision number is the nearest one to a whole interval of reals. `shortest`
gives a decimal of that interval with as few digits as possible, the one nearest to the number
itself among those, and `positional` writes it without an exponent.
-/

set_option autoImplicit false

namespace TypeAtlas.Decimal

/-- The decimal `digits · 10 ^ exponent`. -/
structure Scaled where
  digits : Nat
  exponent : Int
  deriving DecidableEq, Repr

/-- The reals that read back as one number: `value`, the bounds below and above it, all over
`scale`, and whether the bounds themselves are included. -/
structure Rounding where
  value : Nat
  below : Nat
  above : Nat
  scale : Nat
  closed : Bool
  deriving DecidableEq, Repr

/-- The interval of `mantissa · 2 ^ exponent`. The gap below a power of two is half of the one above
it, and a bound reads back as the number with the even mantissa. -/
def Rounding.ofFinite (mantissa : Nat) (exponent : Int) : Rounding :=
  let quarters := exponent - 2
  let factor := twoTo quarters
  let narrow := mantissa == twoTo (Binary64.precision - 1) && exponent != Binary64.leastExponent
  { value := 4 * mantissa * factor
    below := (4 * mantissa - if narrow then 1 else 2) * factor
    above := (4 * mantissa + 2) * factor
    scale := twoTo (-quarters)
    closed := mantissa % 2 == 0 }

namespace Rounding

/-- Whether a decimal lies in the interval. -/
def contains (r : Rounding) (d : Scaled) : Bool :=
  let middle := d.digits * tenTo d.exponent * r.scale
  let unit := tenTo (-d.exponent)
  if r.closed then r.below * unit ≤ middle && middle ≤ r.above * unit
  else r.below * unit < middle && middle < r.above * unit

/-- The number of digits before the decimal point, negative for as many zeros after it. -/
def point (r : Rounding) : Int :=
  let guess : Int := (digitCount r.value : Int) - digitCount r.scale
  if r.scale * tenTo guess ≤ r.value * tenTo (-guess) then guess + 1 else guess

/-- The decimal of the interval with a given number of digits that is nearest to the value, if there
is one. Only the two neighbours of the value can be it; of equally near ones it is the greater. -/
def nearest? (r : Rounding) (count : Nat) : Option Scaled :=
  let exponent := r.point - count
  let num := r.value * tenTo (-exponent)
  let den := r.scale * tenTo exponent
  let lower : Scaled := ⟨num / den, exponent⟩
  let upper : Scaled := ⟨num / den + 1, exponent⟩
  match r.contains lower, r.contains upper with
  | true, true => some (if 2 * (num % den) < den then lower else upper)
  | true, false => some lower
  | false, true => some upper
  | false, false => none

/-- The first decimal among those of 1, 2, … digits. Seventeen digits always suffice. -/
def shortest (r : Rounding) : Scaled :=
  ((List.range 17).findSome? fun count => r.nearest? (count + 1)).getD ⟨0, 0⟩

end Rounding

/-- Takes the zeros off the end of the digits. -/
def Scaled.strip (d : Scaled) : Scaled :=
  let digits := Nat.toDigits 10 d.digits
  let zeros := (digits.reverse.takeWhile (· = '0')).length
  if d.digits = 0 then d else ⟨d.digits / tenTo zeros, d.exponent + zeros⟩

/-- The text of a decimal without an exponent, always with a point. -/
def Scaled.positional (d : Scaled) : String :=
  let digits := Nat.toDigits 10 d.digits
  let point := digits.length + d.exponent
  String.ofList <|
    if point ≤ 0 then ['0', '.'] ++ List.replicate (-point).toNat '0' ++ digits
    else if 0 ≤ d.exponent then digits ++ List.replicate d.exponent.toNat '0' ++ ['.', '0']
    else digits.take point.toNat ++ ['.'] ++ digits.drop point.toNat

/-- The text of a number: its shortest decimal, or a word where there is none. -/
def Binary64.text : Binary64 → String
  | .nan => "NaN"
  | .infinite negative => if negative then "-inf" else "inf"
  | .finite negative mantissa exponent =>
    let magnitude :=
      if mantissa = 0 then "0.0"
      else (Rounding.ofFinite mantissa exponent).shortest.strip.positional
    if negative then "-" ++ magnitude else magnitude

end TypeAtlas.Decimal
