namespace Eisen.Script

/-!
# Tokens of a script

A token is a lexeme with the place of its first character. Places count lines
and columns from one; a column counts characters.
-/

/-- A place in the source text. -/
structure Place where
  line : Nat
  column : Nat
  deriving Repr, DecidableEq

namespace Place

/-- The place of the first character of a text. -/
def start : Place where
  line := 1
  column := 1

/-- The place behind one character; only a line feed ends a line. -/
def next
    (place : Place)
    (character : Char) : Place :=
  if character = '\n' then
    ⟨place.line + 1, 1⟩
  else
    ⟨place.line, place.column + 1⟩

/-- The place behind a run of characters. -/
def after
    (place : Place)
    (characters : List Char) : Place :=
  characters.foldl next place

end Place

/-- The smallest units with a meaning of their own. -/
inductive Lexeme where
  /-- A name, keyword, shape or colour value such as `#ff0000`. -/
  | word (text : String)
  /-- A number or an arithmetic expression, kept as text. -/
  | number (text : String)
  | openBrace
  | closeBrace
  | star
  | greater
  deriving Repr, DecidableEq

/-- How a lexeme is named in a message. -/
def Lexeme.describe : Lexeme → String
  | .word text => "'" ++ text ++ "'"
  | .number text => "number '" ++ text ++ "'"
  | .openBrace => "'\x7b'"
  | .closeBrace => "'\x7d'"
  | .star => "'*'"
  | .greater => "'>'"

/-- A lexeme at its place. -/
structure Token where
  lexeme : Lexeme
  place : Place
  deriving Repr, DecidableEq

end Eisen.Script
