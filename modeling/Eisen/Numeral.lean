import Eisen.Number.Shortest
import Eisen.Text.Blank

namespace Eisen

/-!
# Numerals

A numeral is the text of a numeric field, without blanks around it. It may be
an expression such as `360/36`, which stays text. Numerals agree when they are
the same number or, where one of them is no finite number, the same text.
-/

/-- The text of a numeric field. -/
structure Numeral where
  text : String
  deriving Repr, DecidableEq

namespace Numeral

/-- A numeral drops the blanks around its text. -/
def ofText (text : String) : Numeral where
  text := Text.trim text

/-- The number a numeral stands for, if it is a finite one. -/
def number? (numeral : Numeral) : Option Binary64 :=
  Binary64.read? numeral.text.toList

/-- The least integer kept as an integer, `-2 ^ 63`. -/
def leastInteger : Int := -9223372036854775808

/-- The greatest integer kept as an integer, `2 ^ 63 - 1`. -/
def greatestInteger : Int := 9223372036854775807

/-- The integer a numeral stands for, if it is written as one of 64 bits. -/
def integer? (numeral : Numeral) : Option Int :=
  (Decimal.readInt? numeral.text.toList).filter fun value =>
    decide (leastInteger ≤ value) && decide (value ≤ greatestInteger)

/-- The shortest positional text of a number; halfway digits go up. -/
def numberText (number : Binary64) : String :=
  let magnitude :=
    if number.mantissa = 0 then
      ['0']
    else
      (Digits.shortest .up number).positional
  String.ofList (if number.negative then '-' :: magnitude else magnitude)

/-- The text that stands for a numeral in comparisons and messages. -/
def canonical (numeral : Numeral) : String :=
  match numeral.number? with
  | some number => numberText number
  | none => numeral.text

/-- Two numerals agree when they have the same canonical text. -/
def agrees (left right : Numeral) : Bool :=
  left.canonical == right.canonical

end Numeral

end Eisen
