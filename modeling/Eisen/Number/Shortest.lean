import Eisen.Number.Decimal

namespace Eisen

/-!
# Shortest decimal text of a binary64 number

The digits of a number are the fewest that read back as it, and among those the
nearest to it. Each number of digits gives a grid of decimals; the number's two
neighbours on the grid are tested in exact arithmetic against the interval of
reals that round to the number.
-/

/-- Which decimal is taken of two that are equally near. -/
inductive Tie where
  | up
  | even
  deriving Repr, DecidableEq

/-- Digits `d₁ d₂ … dₙ` standing for `d₁.d₂…dₙ * 10 ^ exponent`. -/
structure Digits where
  digits : List Char
  exponent : Int
  deriving Repr, DecidableEq

namespace Digits

/-- The digits of a decimal without its trailing zeros. -/
def ofDecimal (decimal : Decimal) : Digits :=
  let digits := Nat.toDigits 10 decimal.coefficient
  { digits := (digits.reverse.dropWhile (· == '0')).reverse
    exponent := decimal.exponent + digits.length - 1 }

/-- The greatest `k` with `10 ^ k` at most a positive quotient. -/
def floorLog10 (numerator denominator : Nat) : Int :=
  if denominator ≤ numerator then
    Decimal.digitCount (numerator / denominator) - 1
  else
    let count := Decimal.digitCount (denominator / numerator)
    if denominator ≤ numerator * Nat.pow 10 (count - 1) then
      1 - (count : Int)
    else
      -(count : Int)

/--
The reals that round to a number, as multiples of one unit: the number itself,
the ends of the interval, and whether the ends belong to it.
-/
structure Interval where
  low : Nat
  value : Nat
  high : Nat
  closed : Bool
  unitNumerator : Nat
  unitDenominator : Nat
  deriving Repr, DecidableEq

/--
The rounding interval of a number other than zero, in quarters of its last
place. Below a power of two the neighbours are twice as dense.
-/
def interval (number : Binary64) : Interval where
  low :=
    if number.mantissa = Binary64.leastFullMantissa ∧
        Binary64.leastExponent < number.exponent then
      4 * number.mantissa - 1
    else
      4 * number.mantissa - 2
  value := 4 * number.mantissa
  high := 4 * number.mantissa + 2
  closed := number.mantissa % 2 == 0
  unitNumerator := Nat.pow 2 (number.exponent - 2).toNat
  unitDenominator := Nat.pow 2 (2 - number.exponent).toNat

namespace Interval

/-- Whether a decimal reads back as the number. -/
def holds
    (range : Interval)
    (decimal : Decimal) : Bool :=
  let scaled :=
    decimal.coefficient * Nat.pow 10 decimal.exponent.toNat *
      range.unitDenominator
  let unit := Nat.pow 10 (-decimal.exponent).toNat * range.unitNumerator
  if range.closed then
    decide (range.low * unit ≤ scaled) && decide (scaled ≤ range.high * unit)
  else
    decide (range.low * unit < scaled) && decide (scaled < range.high * unit)

/--
The nearest decimal with `count` digits that reads back as the number, if there
is one; `leading` is the power of ten of the number's first digit.
-/
def candidate?
    (range : Interval)
    (tie : Tie)
    (leading : Int)
    (count : Nat) :
    Option Decimal :=
  let exponent : Int := leading - (count - 1 : Nat)
  let scaled :=
    range.value * range.unitNumerator * Nat.pow 10 (-exponent).toNat
  let unit := range.unitDenominator * Nat.pow 10 exponent.toNat
  let coefficient := scaled / unit
  let below : Decimal := ⟨coefficient, exponent⟩
  let above : Decimal := ⟨coefficient + 1, exponent⟩
  let twice := 2 * (scaled % unit)
  let preferAbove :=
    decide (unit < twice) ||
      (twice == unit && (tie == .up || coefficient % 2 == 1))
  match range.holds below, range.holds above with
  | true, true => some (if preferAbove then above else below)
  | true, false => some below
  | false, true => some above
  | false, false => none

/-- The shortest decimal that reads back; seventeen digits always suffice. -/
def shortest
    (range : Interval)
    (tie : Tie) : Decimal :=
  let leading :=
    floorLog10 (range.value * range.unitNumerator) range.unitDenominator
  match ((List.range 17).map (· + 1)).findSome?
      (range.candidate? tie leading) with
  | some decimal => decimal
  | none => ⟨0, 0⟩

end Interval

/-- The shortest digits of a number other than zero. -/
def shortest
    (tie : Tie)
    (number : Binary64) : Digits :=
  ofDecimal ((interval number).shortest tie)

/-- A run of zero digits. -/
def zeros (count : Nat) : List Char :=
  List.replicate count '0'

/-- Digits with the point in its place and no exponent. -/
def positional (number : Digits) : List Char :=
  let count : Int := number.digits.length
  if number.exponent < 0 then
    '0' :: '.' :: (zeros (-number.exponent - 1).toNat ++ number.digits)
  else if count - 1 ≤ number.exponent then
    number.digits ++ zeros (number.exponent - count + 1).toNat
  else
    let split := (number.exponent + 1).toNat
    number.digits.take split ++ '.' :: number.digits.drop split

/-- Digits with the point after the first one and a signed exponent. -/
def scientific (number : Digits) : List Char :=
  let fraction := number.digits.drop 1
  let point := if fraction.isEmpty then [] else '.' :: fraction
  let sign := if number.exponent < 0 then '-' else '+'
  number.digits.take 1 ++ point ++
    'e' :: sign :: Nat.toDigits 10 number.exponent.natAbs

end Digits

end Eisen
