import Eisen.Script.Fault
import Eisen.Text.Ascii
import Eisen.Text.Blank

namespace Eisen.Script

/-!
# From source text to tokens

The source is cut into pieces: runs of blanks, comments, dropped directives and
lexemes. Only lexemes become tokens.

A number is a loose run of digits and arithmetic signs. A `*` belongs to it only
in front of another operand, as in `2*3`; otherwise it is the loop multiplier.
A `set` directive that only concerns rendering is dropped with the rest of its
line, since its value need not consist of lexemes.
-/

/-- The characters a number always takes. -/
def isNumberCharacter (character : Char) : Bool :=
  "0123456789.+-/()".toList.contains character

/-- The characters a number starts with. -/
def startsNumber (character : Char) : Bool :=
  character.isDigit || ".+-(".toList.contains character

/-- Whether a text goes on with an operand that a `*` can join to a number. -/
def startsOperand : List Char → Bool
  | [] => false
  | character :: _ => character.isDigit || "(.".toList.contains character

/-- The longest number at the front of a text. -/
def numberRun : List Char → List Char
  | [] => []
  | character :: rest =>
      if isNumberCharacter character ||
          (character == '*' && startsOperand rest) then
        character :: numberRun rest
      else
        []

/-- The settings that only concern rendering; a key is matched by its front. -/
def renderingSettings : List String :=
  ["seed", "maxobjects", "maxsize", "minsize", "background", "colorpool",
    "translation", "rotation", "pivot", "scale", "raytracer", "syncrandom"]

/-- Whether the key that follows `set` on the same line concerns rendering. -/
def renderingKeyAhead (rest : List Char) : Bool :=
  let key :=
    ((rest.dropWhile fun character =>
      character == ' ' || character == '\t').takeWhile
        Text.isWordCharacter).map Char.toLower
  renderingSettings.any fun setting => setting.toList.isPrefixOf key

/-- How many characters a block comment's text takes, its end included. -/
def commentLength? : List Char → Option Nat
  | [] => none
  | '*' :: '/' :: _ => some 2
  | _ :: rest => (commentLength? rest).map (· + 1)

/-- How many characters the current line still has. -/
def lineLength (rest : List Char) : Nat :=
  (rest.takeWhile (· != '\n')).length

/-- One piece of the source; `length` counts its characters after the first. -/
structure Piece where
  length : Nat
  lexeme : Option Lexeme
  /-- Blanks and comments leave a line as empty as it was. -/
  layout : Bool
  deriving Repr, DecidableEq

namespace Piece

/-- A run of blanks or a comment. -/
def gap (length : Nat) : Piece where
  length := length
  lexeme := none
  layout := true

/-- A directive that is dropped with its line. -/
def dropped (length : Nat) : Piece where
  length := length
  lexeme := none
  layout := false

/-- A lexeme. -/
def ofLexeme
    (lexeme : Lexeme)
    (length : Nat) : Piece where
  length := length
  lexeme := some lexeme
  layout := false

end Piece

/-- Where scanning stands: its place, and whether the line is still empty. -/
structure Cursor where
  place : Place
  lineStart : Bool
  deriving Repr, DecidableEq

namespace Cursor

/-- The cursor in front of a text. -/
def start : Cursor where
  place := Place.start
  lineStart := true

/-- The cursor behind a piece with the given characters. -/
def after
    (cursor : Cursor)
    (piece : Piece)
    (characters : List Char) : Cursor where
  place := cursor.place.after characters
  lineStart :=
    piece.layout && (cursor.lineStart || characters.contains '\n')

end Cursor

/-- The word that starts with a letter, or the directive it introduces. -/
def wordPiece
    (first : Char)
    (rest : List Char) : Piece :=
  let more := rest.takeWhile Text.isWordCharacter
  let word := String.ofList (first :: more)
  let behind := rest.drop more.length
  if Text.lower word == "set" && renderingKeyAhead behind then
    Piece.dropped (more.length + lineLength behind)
  else
    Piece.ofLexeme (.word word) more.length

/-- The piece at the front of the text `first :: rest`. -/
def piece
    (cursor : Cursor)
    (first : Char)
    (rest : List Char) :
    Except Fault Piece :=
  if Text.isBlank first then
    .ok (Piece.gap (rest.takeWhile Text.isBlank).length)
  else if first == '/' && ['/'].isPrefixOf rest then
    .ok (Piece.gap (lineLength rest))
  else if first == '/' && ['*'].isPrefixOf rest then
    match commentLength? (rest.drop 1) with
    | some length => .ok (Piece.gap (length + 1))
    | none => .error (.unterminatedComment cursor.place)
  else if first == '\x7b' then
    .ok (Piece.ofLexeme .openBrace 0)
  else if first == '\x7d' then
    .ok (Piece.ofLexeme .closeBrace 0)
  else if first == '>' then
    .ok (Piece.ofLexeme .greater 0)
  else if first == '*' then
    .ok (Piece.ofLexeme .star 0)
  else if first == '#' then
    if cursor.lineStart && "define".toList.isPrefixOf rest then
      .error (.preprocessor cursor.place.line)
    else
      let more := rest.takeWhile Char.isAlphanum
      .ok (Piece.ofLexeme (.word (String.ofList (first :: more))) more.length)
  else if startsNumber first then
    let run := numberRun (first :: rest)
    .ok (Piece.ofLexeme (.number (String.ofList run)) (run.length - 1))
  else if first.isAlpha then
    .ok (wordPiece first rest)
  else
    .error (.unexpectedCharacter cursor.place first)

/-- The tokens of a text that starts at the cursor. -/
def tokensFrom
    (cursor : Cursor) :
    List Char → Except Fault (List Token)
  | [] => .ok []
  | first :: rest =>
      match piece cursor first rest with
      | .error fault => .error fault
      | .ok found =>
          let characters := first :: rest.take found.length
          match tokensFrom (cursor.after found characters)
            (rest.drop found.length) with
          | .error fault => .error fault
          | .ok tokens =>
              match found.lexeme with
              | some lexeme => .ok (⟨lexeme, cursor.place⟩ :: tokens)
              | none => .ok tokens
termination_by text => text.length
decreasing_by
  simp only [List.length_cons, List.length_drop]
  omega

/-- The tokens of a source text. -/
def tokens (source : String) : Except Fault (List Token) :=
  tokensFrom Cursor.start source.toList

end Eisen.Script
