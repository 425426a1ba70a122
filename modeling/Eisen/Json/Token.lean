import Eisen.Json.Number
import Eisen.Text.Ascii

namespace Eisen.Json

/-!
# Tokens of JSON text

A string, number or literal that is written wrongly is a token too: whether its
own fault counts depends on what is due at its place.
-/

/-- The smallest units of JSON text. -/
inductive Lexeme where
  | openBracket
  | closeBracket
  | openBrace
  | closeBrace
  | comma
  | colon
  | text (value : String)
  | scalar (value : Json)
  /-- A string that is written wrongly. -/
  | brokenText (fault : Fault)
  /-- A number or literal that is written wrongly. -/
  | brokenScalar (fault : Fault)
  /-- A symbol with which nothing starts. -/
  | stray
  deriving Repr

/-- A lexeme with the place behind its first byte. -/
structure Token where
  lexeme : Lexeme
  place : Place
  deriving Repr

/-- The code written by four hexadecimal digits; four bytes are always read. -/
def hexCode
    (place : Place)
    (symbols : List Text.Symbol) :
    Except Fault Nat :=
  match place.afterBytes? 4 symbols with
  | none => .error ⟨.endInString, place.afterAll symbols⟩
  | some behind =>
      match (symbols.take 4).mapM fun symbol => symbol.bind Text.hexValue? with
      | some digits =>
          .ok (digits.foldl (fun code digit => 16 * code + digit) 0)
      | none => .error ⟨.invalidEscape, behind⟩

/-- The place behind four ASCII characters. -/
def Place.afterHex (place : Place) : Place where
  line := place.line
  column := place.column + 4

/-- Require a character between the two halves of a surrogate pair. -/
def requirePairing
    (place : Place)
    (wanted : Char) :
    List Text.Symbol → Except Fault Unit
  | [] => .error ⟨.endInString, place⟩
  | symbol :: _ =>
      if symbol = some wanted then
        .ok ()
      else
        .error ⟨.hexEscapeEnd, place.afterByte symbol⟩

/-- The character of a hexadecimal escape behind its `u`, and its length. -/
def hexEscape
    (place : Place)
    (symbols : List Text.Symbol) :
    Except Fault (Char × Nat) := do
  let code ← hexCode place symbols
  let behind := place.afterHex
  if 0xDC00 ≤ code ∧ code ≤ 0xDFFF then
    .error ⟨.loneSurrogate, behind⟩
  else if code < 0xD800 ∨ 0xDBFF < code then
    .ok (Char.ofNat code, 4)
  else
    requirePairing behind '\\' (symbols.drop 4)
    requirePairing ⟨behind.line, behind.column + 1⟩ 'u' (symbols.drop 5)
    let second : Place := ⟨behind.line, behind.column + 2⟩
    let trailing ← hexCode second (symbols.drop 6)
    if trailing < 0xDC00 ∨ 0xDFFF < trailing then
      .error ⟨.loneSurrogate, second.afterHex⟩
    else
      .ok (Char.ofNat
        (0x10000 + 0x400 * (code - 0xD800) + (trailing - 0xDC00)), 10)

/-- The character of a one-letter escape. -/
def letterEscape? : Char → Option Char
  | '"' => some '"'
  | '\\' => some '\\'
  | '/' => some '/'
  | 'b' => some '\x08'
  | 'f' => some '\x0c'
  | 'n' => some '\n'
  | 'r' => some '\r'
  | 't' => some '\t'
  | _ => none

/-- The character of an escape behind its backslash, and its length. -/
def escape
    (place : Place) :
    List Text.Symbol → Except Fault (Char × Nat)
  | [] => .error ⟨.endInString, place⟩
  | symbol :: rest =>
      if symbol = some 'u' then
        (hexEscape (place.after symbol) rest).map fun found =>
          (found.1, found.2 + 1)
      else
        match symbol.bind letterEscape? with
        | some character => .ok (character, 1)
        | none => .error ⟨.invalidEscape, place.afterByte symbol⟩

/--
What a string holds behind its opening quote, and its length with
the closing one.
-/
def readContent
    (place : Place) :
    List Text.Symbol → Except Fault (List Text.Symbol × Nat)
  | [] => .error ⟨.endInString, place⟩
  | none :: rest =>
      match readContent (place.after none) rest with
      | .error fault => .error fault
      | .ok (more, length) => .ok (none :: more, 1 + length)
  | some character :: rest =>
      if character = '"' then
        .ok ([], 1)
      else if character = '\\' then
        match escape (place.after (some character)) rest with
        | .error fault => .error fault
        | .ok (decoded, count) =>
            match
              readContent
                (place.afterAll (some character :: rest.take count))
                (rest.drop count) with
            | .error fault => .error fault
            | .ok (more, length) =>
                .ok (some decoded :: more, 1 + count + length)
      else if character.toNat < 0x20 then
        .error ⟨.controlCharacter, place.after (some character)⟩
      else
        match readContent (place.after (some character)) rest with
        | .error fault => .error fault
        | .ok (more, length) => .ok (some character :: more, 1 + length)
termination_by symbols => symbols.length
decreasing_by
  · simp only [List.length_cons]
    omega
  · simp only [List.length_cons, List.length_drop]
    omega
  · simp only [List.length_cons]
    omega

/-- The number of bytes from the first one that is part of no character. -/
def brokenWidth (content : List Text.Symbol) : Nat :=
  (content.dropWhile Option.isSome).foldl
    (fun total symbol => total + Text.width symbol) 0

/--
The text of a string behind its opening quote, and its length. A byte that is
part of no character is found when the string ends; its place is counted back
from there, over the bytes that the string stands for.
-/
def readText
    (place : Place)
    (symbols : List Text.Symbol) :
    Except Fault (String × Nat) :=
  match readContent place symbols with
  | .error fault => .error fault
  | .ok (content, length) =>
      match Text.ofSymbols? content with
      | some decoded => .ok (decoded, length)
      | none =>
          let behind := place.afterAll (symbols.take length)
          .error ⟨.invalidCodePoint,
            ⟨behind.line, behind.column - brokenWidth content⟩⟩

/-- Read the rest of a literal behind its first letter. -/
def readLiteral
    (place : Place) :
    List Char → List Text.Symbol → Except Fault Unit
  | [], _ => .ok ()
  | _ :: _, [] => .error ⟨.endInValue, place⟩
  | letter :: letters, symbol :: rest =>
      if symbol = some letter then
        readLiteral (place.after symbol) letters rest
      else
        .error ⟨.literalDue, place.afterByte symbol⟩

/-- The lexeme of a literal, and its length after the first letter. -/
def literal
    (place : Place)
    (letters : String)
    (value : Json)
    (rest : List Text.Symbol) : Lexeme × Nat :=
  match readLiteral place letters.toList rest with
  | .ok () => (.scalar value, letters.length)
  | .error fault => (.brokenScalar fault, 0)

/--
The lexeme that starts with a character, and its length after that character.
-/
def lexemeAt
    (medium : Medium)
    (place : Place)
    (first : Char)
    (rest : List Text.Symbol) : Lexeme × Nat :=
  let behind := place.after (some first)
  if first = '[' then
    (.openBracket, 0)
  else if first = ']' then
    (.closeBracket, 0)
  else if first = '\x7b' then
    (.openBrace, 0)
  else if first = '\x7d' then
    (.closeBrace, 0)
  else if first = ',' then
    (.comma, 0)
  else if first = ':' then
    (.colon, 0)
  else if first = '"' then
    match readText behind rest with
    | .ok (decoded, length) => (.text decoded, length)
    | .error fault => (.brokenText fault, 0)
  else if first = 'n' then
    literal behind "ull" .null rest
  else if first = 't' then
    literal behind "rue" (.bool true) rest
  else if first = 'f' then
    literal behind "alse" (.bool false) rest
  else if first = '-' || first.isDigit then
    match readNumber medium place (some first :: rest) with
    | .ok (value, length) => (.scalar value, length - 1)
    | .error fault => (.brokenScalar fault, 0)
  else
    (.stray, 0)

/-- The characters between tokens. -/
def isGap (character : Char) : Bool :=
  character == ' ' || character == '\n' ||
    character == '\t' || character == '\r'

/-- The tokens of some symbols that start at a place. -/
def tokensFrom
    (medium : Medium)
    (place : Place) :
    List Text.Symbol → List Token
  | [] => []
  | none :: rest =>
      ⟨.stray, place.afterByte none⟩ ::
        tokensFrom medium (place.after none) rest
  | some first :: rest =>
      if isGap first then
        tokensFrom medium (place.after (some first)) rest
      else
        let found := lexemeAt medium place first rest
        ⟨found.1, place.afterByte (some first)⟩ ::
          tokensFrom medium
            (place.afterAll (some first :: rest.take found.2))
            (rest.drop found.2)
termination_by symbols => symbols.length
decreasing_by
  · simp only [List.length_cons]
    omega
  · simp only [List.length_cons]
    omega
  · simp only [List.length_cons, List.length_drop]
    omega

end Eisen.Json
