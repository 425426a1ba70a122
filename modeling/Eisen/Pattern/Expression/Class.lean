import Eisen.Pattern.Expression.Escape

namespace Eisen.Pattern.Expression

/-!
# Sets in brackets

A set in brackets lists characters, ranges and other sets, and may combine what
stands on both sides of an operator. Brackets may be nested.
-/

/-- The parts of a set that have been read, the last one first. -/
structure ClassParts where
  parts : List ClassTree
  first : Position
  behind : Position

namespace ClassParts

/-- No parts at a place. -/
def none (position : Position) : ClassParts where
  parts := []
  first := position
  behind := position

/-- Add a part. -/
def add
    (found : ClassParts)
    (part : ClassTree) : ClassParts where
  parts := part :: found.parts
  first := if found.parts.isEmpty then part.span.first else found.first
  behind := part.span.behind

/-- The set of all parts. -/
def tree (found : ClassParts) : ClassTree :=
  .ofParts found.parts.reverse ⟨found.first, found.behind⟩

end ClassParts

/-- What waits for the end of a set. -/
inductive ClassFrame where
  /-- Brackets that have been opened behind other parts. -/
  | opened (outer : ClassParts) (negated : Bool) (span : Span)
  /-- An operator behind its left side. -/
  | operator (way : Combination) (left : ClassTree)

/-- The state of reading a set. -/
structure ClassState where
  cursor : Cursor
  found : ClassParts
  frames : List ClassFrame

/-- The names between colons. -/
def classNames : List (String × NamedClass) :=
  [("alnum", .alnum), ("alpha", .alpha), ("ascii", .ascii), ("blank", .blank),
    ("cntrl", .cntrl), ("digit", .digit), ("graph", .graph), ("lower", .lower),
    ("print", .print), ("punct", .punct), ("space", .space), ("upper", .upper),
    ("word", .word), ("xdigit", .xdigit)]

/-- The fault that the innermost brackets are not closed. -/
def unclosedClass
    (frames : List ClassFrame)
    (cursor : Cursor) : Fault :=
  match frames with
  | [] => fault .classUnclosed cursor.here
  | .opened _ _ span :: _ => fault .classUnclosed span
  | .operator _ _ :: rest => unclosedClass rest cursor

/-- Pass characters up to one, without regard to space. -/
def passUpTo
    (wanted : Char)
    (cursor : Cursor) : List Char × Cursor :=
  let passed := cursor.rest.takeWhile (· != wanted)
  (passed, passed.foldl (fun cursor _ => cursor.pass) cursor)

/-- Read a set that is named between colons, if there is one. -/
def readNamedClass? (cursor : Cursor) : Option (ClassTree × Cursor) := do
  let colon ← cursor.passText? "[:"
  let negated := colon.next? == some '^'
  let name := if negated then colon.pass else colon
  let (letters, behind) := passUpTo ':' name
  let final ← behind.passText? ":]"
  let named ← classNames.lookup (String.ofList letters)
  pure (.named named negated (final.spanFrom cursor.position), final)

/-- Read the dashes at the front of a set. -/
def readDashes
    (opening : Position)
    (found : ClassParts)
    (cursor : Cursor) :
    Except Fault (ClassParts × Cursor) :=
  if cursor.next? = some '-' then
    let found := found.add (.literal ⟨'-', false, cursor.nextSpan⟩)
    let behind := cursor.passWithSpace
    if behind.isAtEnd then
      .error (fault .classUnclosed (.empty opening))
    else if _ : behind.rest.length < cursor.rest.length then
      readDashes opening found behind
    else
      .ok (found, behind)
  else
    .ok (found, cursor)
termination_by cursor.rest.length

/--
Open brackets. A circumflex negates the set, dashes at its front stand for
themselves, and so does a closing bracket there.
-/
def openClass (state : ClassState) : Except Fault ClassState := do
  let opening := state.cursor.position
  let unclosed (cursor : Cursor) : Except Fault Unit :=
    if cursor.isAtEnd then
      .error (fault .classUnclosed (cursor.spanFrom opening))
    else
      .ok ()
  let opened := state.cursor.passWithSpace
  unclosed opened
  let negated := opened.next? == some '^'
  let opened := if negated then opened.passWithSpace else opened
  unclosed opened
  let (found, behind) ← readDashes opening (.none opened.position) opened
  let frame (final : Cursor) : ClassFrame :=
    .opened state.found negated (final.spanFrom opening)
  if found.parts.isEmpty ∧ behind.next? = some ']' then
    let final := behind.passWithSpace
    unclosed final
    .ok { cursor := final
          found := found.add (.literal ⟨']', false, behind.nextSpan⟩)
          frames := frame final :: state.frames }
  else
    .ok
      { cursor := behind
        found := found
        frames := frame behind :: state.frames }

/--
The set up to the cursor, combined with the left side of an open operator.
-/
def combineClass (state : ClassState) : ClassTree × List ClassFrame :=
  match state.frames with
  | .operator way left :: rest => (.combined way left state.found.tree, rest)
  | frames => (state.found.tree, frames)

/-- Close brackets. The cursor stands in front of the closing one. -/
def closeClass (state : ClassState) : Sum ClassState (ClassTree × Cursor) :=
  let (content, frames) := combineClass state
  let behind := state.cursor.pass
  match frames with
  | .opened outer negated span :: rest =>
      let closed :=
        ClassTree.bracketed content negated (behind.spanFrom span.first)
      if rest.isEmpty then
        .inr (closed, behind)
      else
        .inl { cursor := behind, found := outer.add closed, frames := rest }
  | _ => .inr (content, behind)

/-- Read an operator. -/
def operateClass
    (way : Combination)
    (behind : Cursor)
    (state : ClassState) : ClassState :=
  let (left, frames) := combineClass state
  { cursor := behind
    found := .none behind.position
    frames := .operator way left :: frames }

/--
Read one side of a range: an escape, or a character that stands for itself.
-/
def readClassAtom (cursor : Cursor) : Except Fault (Atom × Cursor) :=
  match cursor.next? with
  | some '\\' => readEscape cursor
  | some character =>
      .ok (.literal ⟨character, false, cursor.nextSpan⟩, cursor.pass)
  | none => .error (fault .classUnclosed cursor.here)

/-- The part of a set that is an atom. -/
def Atom.classPart : Atom → Except Fault ClassTree
  | .literal written => .ok (.literal written)
  | .shorthand name negated span => .ok (.shorthand name negated span)
  | .property query negated span => .ok (.property query negated span)
  | .assertion _ span => .error (fault .classEscape span)
  | .dot span => .error (fault .classEscape span)

/-- The side of a range that is an atom. -/
def Atom.rangeSide : Atom → Except Fault Literal
  | .literal written => .ok written
  | atom => .error (fault .classRangeBound atom.span)

/-- Read a range, or a part that is none. -/
def readClassRange
    (frames : List ClassFrame)
    (cursor : Cursor) :
    Except Fault (ClassTree × Cursor) := do
  let (left, behind) ← readClassAtom cursor
  let behind := behind.passSpace
  if behind.isAtEnd then
    .error (unclosedClass frames behind)
  else if behind.next? != some '-' || behind.secondBehindSpace? == some ']' ||
      behind.secondBehindSpace? == some '-' then do
    let part ← left.classPart
    .ok (part, behind)
  else
    let right := behind.passWithSpace
    if right.isAtEnd then
      .error (unclosedClass frames right)
    else do
      let (last, final) ← readClassAtom right
      let span : Span := ⟨left.span.first, last.span.behind⟩
      let left ← left.rangeSide
      let last ← last.rangeSide
      if last.character < left.character then
        .error (fault .classRangeOrder span)
      else
        .ok (.range left last, final)

/-- Read one part of a set. -/
def stepClass (state : ClassState) :
    Except Fault (Sum ClassState (ClassTree × Cursor)) :=
  let cursor := state.cursor.passSpace
  let state := { state with cursor := cursor }
  let operator? (text : String) (way : Combination) : Option ClassState :=
    (cursor.passText? text).map fun behind => operateClass way behind state
  match cursor.next? with
  | none => .error (unclosedClass state.frames cursor)
  | some '[' =>
      match if state.frames.isEmpty then none else readNamedClass? cursor with
      | some (part, behind) =>
          .ok (.inl
            { state with cursor := behind, found := state.found.add part })
      | none => (openClass state).map .inl
  | some ']' => .ok (closeClass state)
  | some _ =>
      match (operator? "&&" .intersection).or
          ((operator? "--" .difference).or
            (operator? "~~" .symmetricDifference)) with
      | some next => .ok (.inl next)
      | none => do
          let (part, behind) ← readClassRange state.frames cursor
          .ok (.inl
            { state with cursor := behind, found := state.found.add part })

/-- Read a set from a state on. -/
def readClassFrom (state : ClassState) : Except Fault (ClassTree × Cursor) :=
  match stepClass state with
  | .error fault => .error fault
  | .ok (.inr found) => .ok found
  | .ok (.inl next) =>
      if _ : next.cursor.rest.length < state.cursor.rest.length then
        readClassFrom next
      else
        .error (unclosedClass next.frames next.cursor)
termination_by state.cursor.rest.length

/-- Read a set in brackets. The cursor stands in front of the opening one. -/
def readClass (cursor : Cursor) : Except Fault (ClassTree × Cursor) :=
  readClassFrom
    { cursor := cursor, found := .none cursor.position, frames := [] }

end Eisen.Pattern.Expression
