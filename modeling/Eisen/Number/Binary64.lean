namespace Eisen

/-!
# Finite binary64 numbers

A finite binary64 number is kept as sign, mantissa and exponent, and every
operation is exact natural-number arithmetic followed by one rounding. No
machine arithmetic is involved.
-/

/-- A finite binary64 number; its magnitude is `mantissa * 2 ^ exponent`. -/
structure Binary64 where
  negative : Bool
  mantissa : Nat
  exponent : Int
  deriving Repr, DecidableEq

namespace Binary64

/-- The exponent of the subnormal numbers, the least there is. -/
def leastExponent : Int := -1074

/-- The exponent of the largest finite numbers. -/
def greatestExponent : Int := 971

/-- Zero with a sign. -/
def zero (negative : Bool) : Binary64 where
  negative := negative
  mantissa := 0
  exponent := leastExponent

/--
The integer nearest to a quotient; a quotient halfway between two integers
goes to the even one.
-/
def roundQuotient (numerator denominator : Nat) : Nat :=
  let quotient := numerator / denominator
  let twice := 2 * (numerator % denominator)
  if denominator < twice || (twice == denominator && quotient % 2 == 1) then
    quotient + 1
  else
    quotient

/-- The least mantissa of full length, `2 ^ 52`. -/
def leastFullMantissa : Nat := 4503599627370496

/-- The greatest `k` with `2 ^ k` at most a positive quotient. -/
def floorLog2 (numerator denominator : Nat) : Int :=
  let estimate : Int := (numerator.log2 : Int) - (denominator.log2 : Int)
  let scaledUp := numerator * Nat.pow 2 (-estimate).toNat
  if denominator * Nat.pow 2 estimate.toNat ≤ scaledUp then
    estimate
  else
    estimate - 1

/--
The number nearest to a quotient, ties going to the even mantissa; `none` if
the quotient is beyond the largest finite number.
-/
def ofRatio
    (negative : Bool)
    (numerator denominator : Nat) :
    Option Binary64 :=
  if numerator = 0 then
    some (zero negative)
  else
    let exponent := max (floorLog2 numerator denominator - 52) leastExponent
    let mantissa :=
      roundQuotient
        (numerator * Nat.pow 2 (-exponent).toNat)
        (denominator * Nat.pow 2 exponent.toNat)
    let rounded : Binary64 :=
      if mantissa = 2 * leastFullMantissa then
        ⟨negative, leastFullMantissa, exponent + 1⟩
      else
        ⟨negative, mantissa, exponent⟩
    if greatestExponent < rounded.exponent then none else some rounded

/-- Numerator of the magnitude over `denominator`. -/
def numerator (value : Binary64) : Nat :=
  value.mantissa * Nat.pow 2 value.exponent.toNat

/-- Denominator of the magnitude, a power of two. -/
def denominator (value : Binary64) : Nat :=
  Nat.pow 2 (-value.exponent).toNat

/-- The rounded product; `none` on overflow. -/
def times (left right : Binary64) : Option Binary64 :=
  ofRatio (left.negative != right.negative)
    (left.numerator * right.numerator)
    (left.denominator * right.denominator)

/-- The rounded quotient by a number other than zero; `none` on overflow. -/
def dividedBy (left right : Binary64) : Option Binary64 :=
  ofRatio (left.negative != right.negative)
    (left.numerator * right.denominator)
    (left.denominator * right.numerator)

/-- Whether the number has no fractional part. -/
def isInteger (value : Binary64) : Bool :=
  value.numerator % value.denominator == 0

end Binary64

end Eisen
