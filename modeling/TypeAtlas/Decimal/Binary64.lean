/-!
# Double-precision numbers

A finite number is an integer times a power of two. `ofDecimal` takes the one nearest to a decimal,
and of two that are equally near the one with the even integer.
-/

set_option autoImplicit false

namespace TypeAtlas.Decimal

/-- A double-precision number. A finite one is `mantissa · 2 ^ exponent`, where the mantissa is
below `2 ^ 53` and the exponent is the least possible above `-1075`. -/
inductive Binary64 where
  | nan
  | infinite (negative : Bool)
  | finite (negative : Bool) (mantissa : Nat) (exponent : Int)
  deriving DecidableEq, Repr

/-- The integer nearest to a quotient; a half goes to the even neighbour. -/
def roundToEven (num den : Nat) : Nat :=
  let quotient := num / den
  let twice := 2 * (num % den)
  if twice < den ∨ (twice = den ∧ quotient % 2 = 0) then quotient else quotient + 1

/-- Two to a power, and one if the exponent is negative. -/
def twoTo (exponent : Int) : Nat := Nat.pow 2 exponent.toNat

/-- Ten to a power, and one if the exponent is negative. -/
def tenTo (exponent : Int) : Nat := Nat.pow 10 exponent.toNat

/-- The number of decimal digits of a natural number. -/
def digitCount (n : Nat) : Nat := (Nat.toDigits 10 n).length

namespace Binary64

/-- The least exponent. -/
def leastExponent : Int := -1074

/-- The greatest exponent. -/
def greatestExponent : Int := 971

/-- The number of bits of a mantissa. -/
def precision : Nat := 53

/-- The exponent `k` for which a positive quotient lies between `2 ^ k` and `2 ^ (k + 1)`. -/
def magnitude (num den : Nat) : Int :=
  let k : Int := (num.log2 : Int) - den.log2
  if den * twoTo k ≤ num * twoTo (-k) then k else k - 1

/-- The number nearest to a positive quotient. -/
def ofQuotient (negative : Bool) (num den : Nat) : Binary64 :=
  let exponent := max (magnitude num den - (precision - 1 : Nat)) leastExponent
  let mantissa := roundToEven (num * twoTo (-exponent)) (den * twoTo exponent)
  let carried := mantissa == twoTo precision
  let exponent := if carried then exponent + 1 else exponent
  let mantissa := if carried then twoTo (precision - 1) else mantissa
  if greatestExponent < exponent then .infinite negative
  else .finite negative mantissa exponent

/-- The number nearest to `digits · 10 ^ exponent`. A decimal of 310 or more integer digits is too
large for a finite number, and one with 400 zeros after the point is nearer to zero than to any
other number. -/
def ofDecimal (negative : Bool) (digits : Nat) (exponent : Int) : Binary64 :=
  let point := digitCount digits + exponent
  if digits = 0 ∨ point < -400 then .finite negative 0 leastExponent
  else if 310 < point then .infinite negative
  else ofQuotient negative (digits * tenTo exponent) (tenTo (-exponent))

end Binary64

end TypeAtlas.Decimal
