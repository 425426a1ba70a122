namespace Eisen.Text

/-!
# ASCII letters and digits

Keywords, shape names and file extensions ignore the case of ASCII letters and
of no others, so every class and case map here is the ASCII one.
-/

/-- Map the upper-case ASCII letters of a text to lower case. -/
def lower (text : String) : String :=
  String.ofList (text.toList.map Char.toLower)

/-- Equality up to the case of ASCII letters. -/
def sameLetters (left right : String) : Bool :=
  lower left == lower right

/-- Letters, digits, underscore and colon: the characters inside a word. -/
def isWordCharacter (character : Char) : Bool :=
  character.isAlphanum || character == '_' || character == ':'

/-- Letters, digits and underscore: the characters inside a rule name. -/
def isNameCharacter (character : Char) : Bool :=
  character.isAlphanum || character == '_'

/-- The value of a hexadecimal digit. -/
def hexValue? (digit : Char) : Option Nat :=
  if digit.isDigit then
    some (digit.toNat - '0'.toNat)
  else if 'a' ≤ digit ∧ digit ≤ 'f' then
    some (digit.toNat - 'a'.toNat + 10)
  else if 'A' ≤ digit ∧ digit ≤ 'F' then
    some (digit.toNat - 'A'.toNat + 10)
  else
    none

end Eisen.Text
