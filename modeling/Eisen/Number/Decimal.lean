import Eisen.Number.Binary64

namespace Eisen

/-!
# Decimal numbers

A decimal is a coefficient with a power of ten. This module reads decimal text
and rounds a decimal to the nearest binary64 number.
-/

/-- The non-negative number `coefficient * 10 ^ exponent`. -/
structure Decimal where
  coefficient : Nat
  exponent : Int
  deriving Repr, DecidableEq

namespace Decimal

/-- The number written by a list of decimal digits. -/
def ofDigits (digits : List Char) : Nat :=
  digits.foldl (fun value digit => 10 * value + (digit.toNat - '0'.toNat)) 0

/-- How many decimal digits a natural number has; zero has one. -/
def digitCount (value : Nat) : Nat :=
  (Nat.toDigits 10 value).length

/--
The nearest binary64 number, ties to even; `none` beyond the largest one.

A decimal with its leading digit above `10 ^ 310` or below `10 ^ (-330)` is out
of range or rounds to zero, and is answered without computing the power of ten.
-/
def toBinary64
    (negative : Bool)
    (decimal : Decimal) :
    Option Binary64 :=
  let leading : Int := digitCount decimal.coefficient + decimal.exponent
  if decimal.coefficient = 0 then
    some (Binary64.zero negative)
  else if 310 < leading then
    none
  else if leading < -330 then
    some (Binary64.zero negative)
  else
    Binary64.ofRatio negative
      (decimal.coefficient * Nat.pow 10 decimal.exponent.toNat)
      (Nat.pow 10 (-decimal.exponent).toNat)

/-- A leading sign and what follows it; the flag is set for a minus. -/
def splitSign : List Char → Bool × List Char
  | '-' :: rest => (true, rest)
  | '+' :: rest => (false, rest)
  | rest => (false, rest)

/-- Read a non-empty run of decimal digits that is the whole text. -/
def readNat? (text : List Char) : Option Nat :=
  if text.isEmpty || !text.all Char.isDigit then
    none
  else
    some (ofDigits text)

/-- Read an integer: digits after an optional sign. -/
def readInt? (text : List Char) : Option Int :=
  let (negative, rest) := splitSign text
  (readNat? rest).map fun magnitude =>
    if negative then -(magnitude : Int) else (magnitude : Int)

/-- Read what may follow the digits of a decimal: nothing or an exponent. -/
def readExponent? : List Char → Option Int
  | [] => some 0
  | mark :: rest =>
      if mark == 'e' || mark == 'E' then readInt? rest else none

/-- The fractional digits after a point, and what follows them. -/
def splitFraction : List Char → List Char × List Char
  | '.' :: rest => (rest.takeWhile Char.isDigit, rest.dropWhile Char.isDigit)
  | rest => ([], rest)

/--
Read an unsigned decimal: digits with at most one point among or beside them,
then an optional exponent.
-/
def read? (text : List Char) : Option Decimal :=
  let whole := text.takeWhile Char.isDigit
  let (fraction, rest) := splitFraction (text.dropWhile Char.isDigit)
  if whole.isEmpty && fraction.isEmpty then
    none
  else
    (readExponent? rest).map fun exponent =>
      { coefficient := ofDigits (whole ++ fraction)
        exponent := exponent - fraction.length }

end Decimal

/-- Read signed decimal text as the nearest finite binary64 number. -/
def Binary64.read? (text : List Char) : Option Binary64 :=
  let (negative, rest) := Decimal.splitSign text
  (Decimal.read? rest).bind (Decimal.toBinary64 negative)

end Eisen
