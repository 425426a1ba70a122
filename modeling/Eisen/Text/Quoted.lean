import Eisen.Text.Escaped

namespace Eisen.Text

/-!
# Quoted text in messages

A message that shows a text puts it in double quotes and escapes what would be
unreadable or ambiguous.
-/

/-- The lower-case hexadecimal digits of a number. -/
def hexDigits (value : Nat) : List Char :=
  Nat.toDigits 16 value

/-- The text of a character inside double quotes. -/
def quotedCharacter (character : Char) : List Char :=
  if character = '\x00' then
    ['\\', '0']
  else if character = '\t' then
    ['\\', 't']
  else if character = '\r' then
    ['\\', 'r']
  else if character = '\n' then
    ['\\', 'n']
  else if character = '"' then
    ['\\', '"']
  else if character = '\\' then
    ['\\', '\\']
  else if isEscaped character then
    '\\' :: 'u' :: '\x7b' :: (hexDigits character.toNat ++ ['\x7d'])
  else
    [character]

/-- A text in double quotes. -/
def quoted (text : String) : String :=
  String.ofList ('"' :: (text.toList.flatMap quotedCharacter ++ ['"']))

end Eisen.Text
