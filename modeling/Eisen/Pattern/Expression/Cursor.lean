import Eisen.Pattern.Expression.Tree

namespace Eisen.Pattern.Expression

/-!
# Reading places in expressions

A cursor stands in front of the characters that are still to be read. Where
blanks are ignored it can skip them together with comments.
-/

/-- What is left of an expression, where it starts, and whether blanks count. -/
structure Cursor where
  rest : List Char
  position : Position
  ignoresSpace : Bool
  deriving Repr, DecidableEq

namespace Cursor

/-- The cursor in front of an expression. -/
def start (text : String) : Cursor where
  rest := text.toList
  position := .start
  ignoresSpace := false

/-- Whether nothing is left. -/
def isAtEnd (cursor : Cursor) : Bool :=
  cursor.rest.isEmpty

/-- The next character. -/
def next? (cursor : Cursor) : Option Char :=
  cursor.rest.head?

/-- Pass the next character. -/
def pass (cursor : Cursor) : Cursor :=
  match cursor.rest with
  | [] => cursor
  | character :: rest =>
      { cursor with rest := rest, position := cursor.position.after character }

/-- The cursor behind the blanks and comments in front of some characters. -/
def behindSpace
    (inComment : Bool)
    (position : Position) :
    List Char → List Char × Position
  | [] => ([], position)
  | character :: rest =>
      if inComment then
        behindSpace (character != '\n') (position.after character) rest
      else if Text.isBlank character then
        behindSpace false (position.after character) rest
      else if character = '#' then
        behindSpace true (position.after character) rest
      else
        (character :: rest, position)

/-- Pass blanks and comments where they do not count. -/
def passSpace (cursor : Cursor) : Cursor :=
  if cursor.ignoresSpace then
    let (rest, position) := behindSpace false cursor.position cursor.rest
    { cursor with rest := rest, position := position }
  else
    cursor

/-- Pass the next character and the space behind it. -/
def passWithSpace (cursor : Cursor) : Cursor :=
  cursor.pass.passSpace

/-- Pass a text if it comes next. -/
def passText?
    (cursor : Cursor)
    (text : String) : Option Cursor :=
  if text.toList.isPrefixOf cursor.rest then
    some (text.toList.foldl (fun cursor _ => cursor.pass) cursor)
  else
    none

/-- The character behind the next one and the space between them. -/
def secondBehindSpace? (cursor : Cursor) : Option Char :=
  cursor.passWithSpace.next?

/-- The empty span at the cursor. -/
def here (cursor : Cursor) : Span :=
  .empty cursor.position

/-- The span of the next character. -/
def nextSpan (cursor : Cursor) : Span where
  first := cursor.position
  behind := cursor.pass.position

/-- The span from a place up to the cursor. -/
def spanFrom
    (cursor : Cursor)
    (first : Position) : Span where
  first := first
  behind := cursor.position

/-- Pass characters while they have a property, and the space behind each. -/
def passWhile
    (accepts : Char → Bool)
    (cursor : Cursor) : List Char × Cursor :=
  match cursor.next? with
  | none => ([], cursor)
  | some character =>
      if accepts character then
        let behind := cursor.passWithSpace
        if _ : behind.rest.length < cursor.rest.length then
          let (more, final) := passWhile accepts behind
          (character :: more, final)
        else
          ([character], behind)
      else
        ([], cursor)
termination_by cursor.rest.length

end Cursor

/-- A fault with one span. -/
def fault
    (cause : Cause)
    (span : Span) : Fault where
  cause := cause
  span := span
  other := none

end Eisen.Pattern.Expression
