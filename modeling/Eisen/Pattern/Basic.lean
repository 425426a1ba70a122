import Eisen.Pattern.Extended.Assembly

namespace Eisen

/-!
# Patterns

The patterns that texts have to match. A pattern is written as an extended
expression in which the escapes for digits, word characters and blanks stand for
fixed sets of characters.
-/

/-- A pattern: a regular one, or a program that searches for it. -/
inductive Pattern where
  | regular (pattern : Pattern.Regular)
  | extended (program : Pattern.Extended.Program)
  deriving Repr, DecidableEq

namespace Pattern

/-- Whether a pattern matches a part of a text. -/
def search
    (pattern : Pattern)
    (text : String) :
    Except Extended.Failure Bool :=
  match pattern with
  | .regular pattern => .ok (pattern.occursIn text)
  | .extended program => program.search text

/-- The letters of control characters, replaced by the characters. -/
def withControls : List Char → List Char
  | '\\' :: 'c' :: letter :: rest =>
      if letter.isAlpha then
        Char.ofNat (letter.toUpper.toNat - 64) :: withControls rest
      else
        '\\' :: 'c' :: withControls (letter :: rest)
  | character :: rest => character :: withControls rest
  | [] => []

/-- The blanks of patterns. -/
def spaceCharacters : List Char :=
  [' ', '\t', '\n', '\r', '\x0b', '\x0c', '\u2003', '\ufeff',
    '\u2029', '\u00a0']

/-- The set that an escape of one letter stands for. -/
def escapedSet? : Char → Option (List Char)
  | 'd' => some "[0-9]".toList
  | 'D' => some "[^0-9]".toList
  | 'w' => some "[A-Za-z0-9_]".toList
  | 'W' => some "[^A-Za-z0-9_]".toList
  | 's' => some (['['] ++ spaceCharacters ++ [']'])
  | 'S' => some (['[', '^'] ++ spaceCharacters ++ [']'])
  | _ => none

/-- The escapes of one letter for sets, replaced by the sets. -/
def withSets : List Char → List Char
  | '\\' :: letter :: rest =>
      (escapedSet? letter).getD ['\\', letter] ++ withSets rest
  | character :: rest => character :: withSets rest
  | [] => []

/-- The pattern that a text writes. -/
def read? (text : String) : Option Pattern := do
  let expression ← Extended.read? (withSets (withControls text.toList))
  if expression.tree.isHard expression.referred then
    let program ← expression.program?
    pure (.extended program)
  else
    match Expression.pattern (String.ofList (expression.tree.notate 0)) with
    | .ok pattern => pure (.regular pattern)
    | .error _ => none

end Pattern

end Eisen
