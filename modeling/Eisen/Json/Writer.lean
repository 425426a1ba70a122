import Eisen.Json.Basic
import Eisen.Number.Shortest

namespace Eisen.Json

/-!
# JSON text of values

The compact form has no blanks. The indented form puts every item and member on
a line of its own, two blanks deeper than the brackets around it.
-/

/-- A hexadecimal escape with four digits. -/
def codeEscape (code : Nat) : List Char :=
  let digits := Nat.toDigits 16 code
  '\\' :: 'u' :: (List.replicate (4 - digits.length) '0' ++ digits)

/-- The text of a character inside a string. -/
def escapeCharacter (character : Char) : List Char :=
  if character = '"' then
    ['\\', '"']
  else if character = '\\' then
    ['\\', '\\']
  else if character = '\x08' then
    ['\\', 'b']
  else if character = '\x0c' then
    ['\\', 'f']
  else if character = '\n' then
    ['\\', 'n']
  else if character = '\r' then
    ['\\', 'r']
  else if character = '\t' then
    ['\\', 't']
  else if character.toNat < 0x20 then
    codeEscape character.toNat
  else
    [character]

/-- A string in its quotes. -/
def quote (text : String) : String :=
  String.ofList ('"' :: (text.toList.flatMap escapeCharacter ++ ['"']))

/-- The decimal exponents at which a number is written without an exponent. -/
def isPositional (exponent : Int) : Bool :=
  decide (-5 ≤ exponent) && decide (exponent ≤ 15)

/--
The text of a binary64 number: the shortest digits, halfway ones going to the
even digit, with a point or an exponent so that it is no integer.
-/
def realText (number : Binary64) : String :=
  let magnitude :=
    if number.mantissa = 0 then
      "0.0".toList
    else
      let digits := Digits.shortest .even number
      if isPositional digits.exponent then
        let plain := digits.positional
        if plain.contains '.' then plain else plain ++ ".0".toList
      else
        digits.scientific
  String.ofList (if number.negative then '-' :: magnitude else magnitude)

mutual

/-- The compact text of a value. -/
def compact : Json → String
  | .null => "null"
  | .bool value => if value then "true" else "false"
  | .integer value => toString value
  | .real value => realText value
  | .text value => quote value
  | .array items => "[" ++ ",".intercalate (compactItems items) ++ "]"
  | .object members =>
      "\x7b" ++ ",".intercalate (compactMembers members) ++ "\x7d"

/-- The compact texts of items. -/
def compactItems : List Json → List String
  | [] => []
  | item :: rest => compact item :: compactItems rest

/-- The compact texts of members. -/
def compactMembers : List (String × Json) → List String
  | [] => []
  | (name, value) :: rest =>
      (quote name ++ ":" ++ compact value) :: compactMembers rest

end

/-- The start of a line at a nesting depth. -/
def lineStart (depth : Nat) : String :=
  String.ofList ('\n' :: List.replicate (2 * depth) ' ')

/-- Brackets around parts that each stand on a line of their own. -/
def bracketed
    (opening closing : String)
    (depth : Nat)
    (parts : List String) : String :=
  if parts.isEmpty then
    opening ++ closing
  else
    opening ++ lineStart (depth + 1) ++
      ("," ++ lineStart (depth + 1)).intercalate parts ++
      lineStart depth ++ closing

mutual

/-- The indented text of a value at a nesting depth. -/
def indentedAt (depth : Nat) : Json → String
  | .array items => bracketed "[" "]" depth (indentedItems (depth + 1) items)
  | .object members =>
      bracketed "\x7b" "\x7d" depth (indentedMembers (depth + 1) members)
  | .null => "null"
  | .bool value => if value then "true" else "false"
  | .integer value => toString value
  | .real value => realText value
  | .text value => quote value

/-- The indented texts of items. -/
def indentedItems (depth : Nat) : List Json → List String
  | [] => []
  | item :: rest => indentedAt depth item :: indentedItems depth rest

/-- The indented texts of members. -/
def indentedMembers (depth : Nat) : List (String × Json) → List String
  | [] => []
  | (name, value) :: rest =>
      (quote name ++ ": " ++ indentedAt depth value) ::
        indentedMembers depth rest

end

/-- The indented text of a value. -/
def indented (value : Json) : String :=
  indentedAt 0 value

end Eisen.Json
