import Eisen.Text.Symbol

namespace Eisen.Json

/-!
# Faults of JSON text

A fault names the byte at which reading stops: its line, counted from one, and
how many bytes the line has up to it.
-/

/-- A line, and how many of its bytes have been read. -/
structure Place where
  line : Nat
  column : Nat
  deriving Repr, DecidableEq

namespace Place

/-- The place in front of a text. -/
def start : Place where
  line := 1
  column := 0

/-- The place behind a symbol. -/
def after
    (place : Place)
    (symbol : Text.Symbol) : Place :=
  if symbol = some '\n' then
    ⟨place.line + 1, 0⟩
  else
    ⟨place.line, place.column + Text.width symbol⟩

/-- The place behind the first byte of a symbol. -/
def afterByte
    (place : Place)
    (symbol : Text.Symbol) : Place :=
  if symbol = some '\n' then
    ⟨place.line + 1, 0⟩
  else
    ⟨place.line, place.column + 1⟩

/-- The place behind some symbols. -/
def afterAll
    (place : Place)
    (passed : List Text.Symbol) : Place :=
  passed.foldl after place

/-- The place behind a number of bytes, if there are as many. -/
def afterBytes?
    (place : Place)
    (count : Nat) :
    List Text.Symbol → Option Place
  | [] => if count = 0 then some place else none
  | symbol :: rest =>
      if count = 0 then
        some place
      else if Text.width symbol ≤ count then
        (place.after symbol).afterBytes? (count - Text.width symbol) rest
      else
        some ⟨place.line, place.column + count⟩

end Place

/--
How text reaches its reader: as a whole, or byte by byte. A stream has been read
one byte ahead where a number is found to have ended.
-/
inductive Medium where
  | whole
  | stream
  deriving Repr, DecidableEq

/-- What stops the reading of JSON text. -/
inductive Cause where
  | endInValue
  | endInList
  | endInObject
  | endInString
  | valueDue
  | literalDue
  | colonDue
  | listEndDue
  | objectEndDue
  | keyDue
  | trailingComma
  | trailingCharacters
  | invalidNumber
  | numberOutOfRange
  | controlCharacter
  | invalidEscape
  | hexEscapeEnd
  | loneSurrogate
  | invalidCodePoint
  | tooDeep
  deriving Repr, DecidableEq

/-- The wording of a cause. -/
def Cause.text : Cause → String
  | .endInValue => "EOF while parsing a value"
  | .endInList => "EOF while parsing a list"
  | .endInObject => "EOF while parsing an object"
  | .endInString => "EOF while parsing a string"
  | .valueDue => "expected value"
  | .literalDue => "expected ident"
  | .colonDue => "expected `:`"
  | .listEndDue => "expected `,` or `]`"
  | .objectEndDue => "expected `,` or `\x7d`"
  | .keyDue => "key must be a string"
  | .trailingComma => "trailing comma"
  | .trailingCharacters => "trailing characters"
  | .invalidNumber => "invalid number"
  | .numberOutOfRange => "number out of range"
  | .controlCharacter =>
      "control character (\\u0000-\\u001F) found while parsing a string"
  | .invalidEscape => "invalid escape"
  | .hexEscapeEnd => "unexpected end of hex escape"
  | .loneSurrogate => "lone leading surrogate in hex escape"
  | .invalidCodePoint => "invalid unicode code point"
  | .tooDeep => "recursion limit exceeded"

/-- A cause at its place. -/
structure Fault where
  cause : Cause
  place : Place
  deriving Repr, DecidableEq

/-- The message of a fault. -/
def Fault.message (fault : Fault) : String :=
  fault.cause.text ++ " at line " ++ toString fault.place.line ++ " column " ++
    toString fault.place.column

end Eisen.Json
