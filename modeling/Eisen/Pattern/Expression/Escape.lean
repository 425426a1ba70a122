import Eisen.Pattern.Expression.Cursor
import Eisen.Text.Ascii
import Eisen.Text.Property

namespace Eisen.Pattern.Expression

/-!
# Escapes in expressions

What a backslash introduces: a character, a set of characters or a condition.
-/

/-- What stands alone in an expression. -/
inductive Atom where
  | literal (literal : Literal)
  | assertion (assertion : Assertion) (span : Span)
  | dot (span : Span)
  | shorthand (name : Shorthand) (negated : Bool) (span : Span)
  | property (query : Query) (negated : Bool) (span : Span)

/-- The span of an atom. -/
def Atom.span : Atom → Span
  | .literal written => written.span
  | .assertion _ span => span
  | .dot span => span
  | .shorthand _ _ span => span
  | .property _ _ span => span

/-- The expression that is an atom. -/
def Atom.tree : Atom → Tree
  | .literal written => .literal written
  | .assertion condition span => .assertion condition span
  | .dot span => .dot span
  | .shorthand name negated span => .classTree (.shorthand name negated span)
  | .property query negated span => .classTree (.property query negated span)

/-- The characters with a meaning of their own. -/
def isSpecial (character : Char) : Bool :=
  "\\.+*?()|[]\x7b\x7d^$#&-~".toList.contains character

/-- The characters that stand for themselves behind a backslash. -/
def isEscapable (character : Char) : Bool :=
  isSpecial character ||
    (decide (character.toNat < 0x80) && !character.isAlphanum &&
      character != '<' && character != '>')

/-- The character with the code that hexadecimal digits write. -/
def hexCharacter? (digits : List Char) : Option Char :=
  let code := (digits.filterMap Text.hexValue?).foldl
    (fun code digit => 16 * code + digit) 0
  if code.isValidChar then some (Char.ofNat code) else none

/--
Read a number of hexadecimal digits; the cursor stands in front of the first.
-/
def readHexDigits
    (count : Nat)
    (cursor : Cursor) :
    Except Fault (List Char × Cursor) :=
  match count, cursor.next? with
  | 0, _ => .ok ([], cursor)
  | _ + 1, none => .error (fault .escapeEnd cursor.here)
  | fewer + 1, some digit =>
      if (Text.hexValue? digit).isNone then
        .error (fault .hexDigit cursor.nextSpan)
      else do
        let (digits, final) ← readHexDigits fewer cursor.passWithSpace
        .ok (digit :: digits, final)

/-- Read a character written by hexadecimal digits in braces. -/
def readBracedHex
    (first : Position)
    (cursor : Cursor) :
    Except Fault (Literal × Cursor) :=
  let brace := cursor.position
  let digitsFrom := cursor.pass.position
  let (digits, behind) :=
    cursor.passWithSpace.passWhile fun digit => (Text.hexValue? digit).isSome
  match behind.next? with
  | none => .error (fault .escapeEnd (behind.spanFrom brace))
  | some last =>
      if last != '\x7d' then
        .error (fault .hexDigit behind.nextSpan)
      else
        let final := behind.passWithSpace
        if digits.isEmpty then
          .error (fault .hexEmpty (final.spanFrom brace))
        else
          match hexCharacter? digits with
          | none => .error (fault .hexNoCharacter ⟨digitsFrom, behind.position⟩)
          | some character =>
              .ok (⟨character, false, final.spanFrom first⟩, final)

/--
Read a character written by hexadecimal digits. The cursor stands in front of
the letter, which says how many digits there are without braces.
-/
def readHex
    (first : Position)
    (letter : Char)
    (cursor : Cursor) :
    Except Fault (Literal × Cursor) :=
  let behind := cursor.passWithSpace
  if behind.isAtEnd then
    .error (fault .escapeEnd behind.here)
  else if behind.next? = some '\x7b' then
    readBracedHex first behind
  else do
    let count := if letter = 'x' then 2 else if letter = 'u' then 4 else 8
    let (digits, final) ← readHexDigits count behind
    match hexCharacter? digits with
    | none => .error (fault .hexNoCharacter (final.spanFrom behind.position))
    | some character =>
        .ok (⟨character, letter == 'x', final.spanFrom first⟩, final)

/-- Split a list of characters at the first place where a text stands. -/
def splitAtText?
    (text : List Char) :
    List Char → Option (List Char × List Char)
  | [] => none
  | character :: rest =>
      if text.isPrefixOf (character :: rest) then
        some ([], (character :: rest).drop text.length)
      else
        (splitAtText? text rest).map fun (front, behind) =>
          (character :: front, behind)

/-- The query of a property's name in braces, and whether it is negated. -/
def queryOf (name : List Char) : Query × Bool :=
  let valued (parts : List Char × List Char) : Query :=
    .value (String.ofList parts.1) (String.ofList parts.2)
  match splitAtText? ['!', '='] name with
  | some parts => (valued parts, true)
  | none =>
      match (splitAtText? [':'] name).or (splitAtText? ['='] name) with
      | some parts => (valued parts, false)
      | none => (.name (String.ofList name), false)

/-- Read a property of characters. The cursor stands in front of its letter. -/
def readProperty
    (first : Position)
    (negated : Bool)
    (cursor : Cursor) :
    Except Fault (Atom × Cursor) :=
  let behind := cursor.passWithSpace
  match behind.next? with
  | none => .error (fault .escapeEnd behind.here)
  | some '\x7b' =>
      let (name, final) := behind.passWithSpace.passWhile (· != '\x7d')
      if final.isAtEnd then
        .error (fault .escapeEnd final.here)
      else
        let final := final.pass
        let (query, turned) := queryOf name
        .ok (.property query (negated != turned) (final.spanFrom first), final)
  | some '\\' => .error (fault .propertyUnwritten behind.nextSpan)
  | some letter =>
      let final := behind.passWithSpace
      .ok (.property (.name letter.toString) negated
        (final.spanFrom first), final)

/-- The kinds of word boundaries that are named in braces. -/
def wordBoundaries : List (String × Assertion) :=
  [("start", .wordStart), ("end", .wordEnd), ("start-half", .wordStartHalf),
    ("end-half", .wordEndHalf)]

/--
Read the kind of a word boundary in braces, if it is no count. The cursor stands
in front of the brace.
-/
def readWordBoundary
    (first : Position)
    (cursor : Cursor) :
    Except Fault (Assertion × Cursor) :=
  let accepts (character : Char) : Bool := character.isAlpha || character == '-'
  let opened := cursor.passWithSpace
  match opened.next? with
  | none => .error (fault .wordBoundaryEnd (opened.spanFrom first))
  | some character =>
      if !accepts character then
        .ok (.wordBoundary, cursor)
      else
        let (name, behind) := opened.passWhile accepts
        if behind.next? != some '\x7d' then
          .error (fault .wordBoundaryUnclosed (behind.spanFrom cursor.position))
        else
          match wordBoundaries.lookup (String.ofList name) with
          | some kind => .ok (kind, behind.pass)
          | none =>
              .error (fault .wordBoundaryUnknown
                (behind.spanFrom opened.position))

/-- The characters with an escape of one letter. -/
def letterEscape? : Char → Option Char
  | 'a' => some '\x07'
  | 'f' => some '\x0c'
  | 't' => some '\t'
  | 'n' => some '\n'
  | 'r' => some '\r'
  | 'v' => some '\x0b'
  | _ => none

/-- The conditions with an escape of one letter. -/
def letterAssertion? : Char → Option Assertion
  | 'A' => some .textStart
  | 'z' => some .textEnd
  | 'b' => some .wordBoundary
  | 'B' => some .noWordBoundary
  | '<' => some .wordStart
  | '>' => some .wordEnd
  | _ => none

/-- The sets with an escape of one letter, and whether they are negated. -/
def letterShorthand? : Char → Option (Shorthand × Bool)
  | 'd' => some (.digit, false)
  | 'D' => some (.digit, true)
  | 's' => some (.space, false)
  | 'S' => some (.space, true)
  | 'w' => some (.word, false)
  | 'W' => some (.word, true)
  | _ => none

/-- Read an escape of one letter behind the letter. -/
def readLetterEscape
    (first : Position)
    (letter : Char)
    (behind : Cursor) :
    Except Fault (Atom × Cursor) :=
  let span := behind.spanFrom first
  if isEscapable letter then
    .ok (.literal ⟨letter, false, span⟩, behind)
  else
    match letterShorthand? letter, letterEscape? letter,
      letterAssertion? letter with
    | some (name, negated), _, _ => .ok (.shorthand name negated span, behind)
    | _, some character, _ => .ok (.literal ⟨character, false, span⟩, behind)
    | _, _, some .wordBoundary =>
        if behind.next? = some '\x7b' then do
          let (kind, final) ← readWordBoundary first behind
          .ok (.assertion kind
            (if final.position = behind.position then
              span
            else
              final.spanFrom first), final)
        else
          .ok (.assertion .wordBoundary span, behind)
    | _, _, some condition => .ok (.assertion condition span, behind)
    | _, _, none => .error (fault .escapeUnknown span)

/-- Read an escape. The cursor stands in front of the backslash. -/
def readEscape (cursor : Cursor) : Except Fault (Atom × Cursor) :=
  let first := cursor.position
  let behind := cursor.pass
  match behind.next? with
  | none => .error (fault .escapeEnd (behind.spanFrom first))
  | some letter =>
      if letter.isDigit then
        .error (fault .backreference (behind.pass.spanFrom first))
      else if letter = 'x' ∨ letter = 'u' ∨ letter = 'U' then do
        let (written, final) ← readHex first letter behind
        .ok (.literal written, final)
      else if letter = 'p' ∨ letter = 'P' then
        readProperty first (letter == 'P') behind
      else
        readLetterEscape first letter behind.pass

/-- Read what stands alone. The cursor stands in front of a character. -/
def readAtom
    (character : Char)
    (cursor : Cursor) :
    Except Fault (Atom × Cursor) :=
  let span := cursor.nextSpan
  let behind := cursor.pass
  match character with
  | '\\' => readEscape cursor
  | '.' => .ok (.dot span, behind)
  | '^' => .ok (.assertion .lineStart span, behind)
  | '$' => .ok (.assertion .lineEnd span, behind)
  | character => .ok (.literal ⟨character, false, span⟩, behind)

end Eisen.Pattern.Expression
