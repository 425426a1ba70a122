import Eisen.Text.Blank

namespace Eisen.Pattern.Expression

/-!
# Faults of expressions

What can be wrong with the text of a regular expression. A fault points at the
characters that are wrong, and its report shows them under the expression.
-/

/-- A place in an expression: its line and column, both counted from one. -/
structure Position where
  line : Nat
  column : Nat
  deriving Repr, DecidableEq

namespace Position

/-- The place in front of an expression. -/
def start : Position where
  line := 1
  column := 1

/-- The place behind a character. -/
def after
    (position : Position)
    (character : Char) : Position :=
  if character = '\n' then
    ⟨position.line + 1, 1⟩
  else
    ⟨position.line, position.column + 1⟩

/-- Whether a place comes before another one, or is the same. -/
def notAfter (left right : Position) : Bool :=
  decide (left.line < right.line) ||
    (left.line == right.line && decide (left.column ≤ right.column))

end Position

/-- The characters from a place up to another one. -/
structure Span where
  first : Position
  behind : Position
  deriving Repr, DecidableEq

/-- The span of no characters. -/
def Span.empty (position : Position) : Span where
  first := position
  behind := position

/-- The greatest depth of nested parts of an expression. -/
def depthLimit : Nat := 250

/-- What is wrong with an expression. -/
inductive Cause where
  | classEscape
  | classRangeOrder
  | classRangeBound
  | classUnclosed
  | countInvalid
  | hexEmpty
  | hexNoCharacter
  | hexDigit
  | escapeEnd
  | escapeUnknown
  | flagNegationDangling
  | flagRepeated
  | flagNegationRepeated
  | flagEnd
  | flagUnknown
  | groupNameRepeated
  | groupNameEmpty
  | groupNameCharacter
  | groupNameUnclosed
  | groupUnclosed
  | groupUnopened
  | tooDeep
  | countOrder
  | countEmpty
  | countUnclosed
  | repetitionOfNothing
  | wordBoundaryUnclosed
  | wordBoundaryUnknown
  | wordBoundaryEnd
  | propertyUnwritten
  | backreference
  | lookAround
  | fullAlphabetForbidden
  | brokenCharacter
  | propertyUnknown
  | propertyValueUnknown
  deriving Repr, DecidableEq

/-- The wording of a cause. -/
def Cause.text : Cause → String
  | .classEscape => "invalid escape sequence found in character class"
  | .classRangeOrder =>
      "invalid character class range, the start must be <= the end"
  | .classRangeBound => "invalid range boundary, must be a literal"
  | .classUnclosed => "unclosed character class"
  | .countInvalid => "decimal literal invalid"
  | .hexEmpty => "hexadecimal literal empty"
  | .hexNoCharacter => "hexadecimal literal is not a Unicode scalar value"
  | .hexDigit => "invalid hexadecimal digit"
  | .escapeEnd =>
      "incomplete escape sequence, reached end of pattern prematurely"
  | .escapeUnknown => "unrecognized escape sequence"
  | .flagNegationDangling => "dangling flag negation operator"
  | .flagRepeated => "duplicate flag"
  | .flagNegationRepeated => "flag negation operator repeated"
  | .flagEnd => "expected flag but got end of regex"
  | .flagUnknown => "unrecognized flag"
  | .groupNameRepeated => "duplicate capture group name"
  | .groupNameEmpty => "empty capture group name"
  | .groupNameCharacter => "invalid capture group character"
  | .groupNameUnclosed => "unclosed capture group name"
  | .groupUnclosed => "unclosed group"
  | .groupUnopened => "unopened group"
  | .tooDeep =>
      "exceed the maximum number of nested parentheses/brackets (" ++
        toString depthLimit ++ ")"
  | .countOrder =>
      "invalid repetition count range, the start must be <= the end"
  | .countEmpty => "repetition quantifier expects a valid decimal"
  | .countUnclosed => "unclosed counted repetition"
  | .repetitionOfNothing => "repetition operator missing expression"
  | .wordBoundaryUnclosed =>
      "special word boundary assertion is either unclosed or " ++
        "contains an invalid character"
  | .wordBoundaryUnknown =>
      "unrecognized special word boundary assertion, " ++
        "valid choices are: start, end, start-half or end-half"
  | .wordBoundaryEnd =>
      "found either the beginning of a special word boundary or " ++
        "a bounded repetition on a \\b with an opening brace, " ++
        "but no closing brace"
  | .propertyUnwritten => "invalid Unicode character class"
  | .backreference => "backreferences are not supported"
  | .lookAround =>
      "look-around, including look-ahead and look-behind, is not supported"
  | .fullAlphabetForbidden => "Unicode not allowed here"
  | .brokenCharacter => "pattern can match invalid UTF-8"
  | .propertyUnknown => "Unicode property not found"
  | .propertyValueUnknown => "Unicode property value not found"

/--
A cause with the characters that are wrong, and those that they clash with.
-/
structure Fault where
  cause : Cause
  span : Span
  other : Option Span
  deriving Repr, DecidableEq

/-- The lines of an expression. A line feed at the end starts no line. -/
def lines : List Char → List (List Char)
  | [] => []
  | '\n' :: rest => [] :: lines rest
  | '\r' :: '\n' :: rest => [] :: lines rest
  | character :: rest =>
      match lines rest with
      | [] => [[character]]
      | first :: more => (character :: first) :: more

/-- Some copies of a character. -/
def copies
    (count : Nat)
    (character : Char) : String :=
  String.ofList (List.replicate count character)

/--
Marks under the characters of spans of one line, behind the columns passed.
-/
def underline
    (passed : Nat) :
    List Span → String
  | [] => ""
  | span :: rest =>
      let gap := span.first.column - 1 - passed
      let width := max 1 (span.behind.column - span.first.column)
      copies gap ' ' ++ copies width '^' ++
        underline (passed + gap + width) rest

/-- Lines with numbers from one on, and marks under what spans point at. -/
def markedLines
    (numberWidth : Nat)
    (spans : List Span)
    (number : Nat) :
    List (List Char) → String
  | [] => ""
  | line :: rest =>
      let label := toString number
      let margin :=
        if numberWidth = 0 then
          "    "
        else
          copies (numberWidth - label.length) ' ' ++ label ++ ": "
      let here := spans.filter fun span => span.first.line == number
      let marks :=
        if here.isEmpty then
          ""
        else
          copies margin.length ' ' ++ underline 0 here ++ "\n"
      margin ++ String.ofList line ++ "\n" ++ marks ++
        markedLines numberWidth spans (number + 1) rest

/-- Where a span of several lines begins and ends. -/
def Span.note (span : Span) : String :=
  "on line " ++ toString span.first.line ++ " (column " ++
    toString span.first.column ++
    ") through line " ++ toString span.behind.line ++ " (column " ++
    toString (span.behind.column - 1) ++ ")"

/-- The report of a fault under the expression that it is about. -/
def Fault.report
    (fault : Fault)
    (expression : String) : String :=
  let characters := expression.toList
  let found := lines characters
  let lineCount :=
    if characters.getLast? = some '\n' then found.length + 1 else found.length
  let numberWidth := if lineCount ≤ 1 then 0 else (toString lineCount).length
  let spans :=
    (fault.span :: fault.other.toList).mergeSort fun left right =>
      left.first.notAfter right.first
  let narrow := spans.filter fun span => span.first.line == span.behind.line
  let wide := spans.filter fun span => span.first.line != span.behind.line
  let shown := markedLines numberWidth narrow 1 found
  let body :=
    if characters.contains '\n' then
      let divider := copies 79 '~' ++ "\n"
      let notes :=
        if wide.isEmpty then
          ""
        else
          "\n".intercalate (wide.map Span.note) ++ "\n"
      divider ++ shown ++ divider ++ notes
    else
      shown
  "regex parse error:\n" ++ body ++ "error: " ++ fault.cause.text

end Eisen.Pattern.Expression
