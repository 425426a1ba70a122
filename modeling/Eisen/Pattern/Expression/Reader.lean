import Eisen.Pattern.CharacterSet
import Eisen.Pattern.Expression.Class

namespace Eisen.Pattern.Expression

/-!
# Reading expressions

An expression is read from left to right. Groups that are still open and the
branches in front of the current one wait on a stack.
-/

/-- What waits for the end of a group or of the expression. -/
inductive Frame where
  /-- A group behind the parts in front of it. -/
  | group
      (kind : GroupKind) (span : Span) (parts : List Tree) (first : Position)
      (ignoredSpace : Bool)
  /-- Branches in front of the current one, the last one first. -/
  | branches (earlier : List Tree) (first : Position)

/-- The state of reading an expression. -/
structure State where
  cursor : Cursor
  /-- The parts of the current branch, the last one first. -/
  parts : List Tree
  /-- Where the current branch starts. -/
  first : Position
  frames : List Frame
  /-- How many groups have a number. -/
  groups : Nat
  /-- The names of groups, with their places. -/
  names : List (String × Span)

/-- The flags with their letters. -/
def flagLetters : List (Char × Flag) :=
  [('i', .ignoreCase), ('m', .multiLine), ('s', .dotMatchesAll),
    ('U', .swapGreed), ('u', .fullAlphabet), ('R', .anyLineEnd),
    ('x', .ignoreSpace)]

/-- The mark that a letter stands for. -/
def flagMark? (letter : Char) : Option FlagMark :=
  if letter = '-' then some .negation else (flagLetters.lookup letter).map .flag

/-- The cause of a mark that is repeated. -/
def FlagMark.repeatedCause : FlagMark → Cause
  | .negation => .flagNegationRepeated
  | .flag _ => .flagRepeated

/-- Read flags up to a colon or a closing parenthesis. -/
def readFlags
    (earlier : List FlagItem)
    (cursor : Cursor) :
    Except Fault (List FlagItem × Cursor) :=
  match cursor.next? with
  | none => .error (fault .flagEnd cursor.here)
  | some letter =>
      if letter = ':' ∨ letter = ')' then
        match earlier.getLast? with
        | some ⟨.negation, span⟩ => .error (fault .flagNegationDangling span)
        | _ => .ok (earlier, cursor)
      else
        match flagMark? letter with
        | none => .error (fault .flagUnknown cursor.nextSpan)
        | some mark =>
            match earlier.find? fun item => item.mark == mark with
            | some item =>
                .error ⟨mark.repeatedCause, cursor.nextSpan, some item.span⟩
            | none =>
                let behind := cursor.pass
                if behind.isAtEnd then
                  .error (fault .flagEnd behind.here)
                else if _ : behind.rest.length < cursor.rest.length then
                  readFlags (earlier ++ [⟨mark, cursor.nextSpan⟩]) behind
                else
                  .ok (earlier, cursor)
termination_by cursor.rest.length

/-- What a list of flags says about one of them. -/
def flagState?
    (wanted : Flag)
    (turnsOn : Bool) :
    List FlagItem → Option Bool
  | [] => none
  | item :: rest =>
      match item.mark with
      | .negation => flagState? wanted false rest
      | .flag flag =>
          if flag = wanted then some turnsOn else flagState? wanted turnsOn rest

/-- Whether a character may stand in the name of a group. -/
def isNameCharacter
    (isFirst : Bool)
    (character : Char) : Bool :=
  character == '_' || CharacterSet.nameLetter.holds character ||
    (!isFirst &&
      (character == '.' || character == '[' || character == ']' ||
        CharacterSet.nameNumber.holds character))

/-- Read the name of a group up to its closing bracket. -/
def readGroupName
    (names : List (String × Span))
    (cursor : Cursor) :
    Except Fault (String × Span × Cursor) :=
  let (letters, behind) := passUpTo '>' cursor
  let valid :=
    match letters with
    | [] => []
    | first :: rest =>
        if isNameCharacter true first then
          first :: rest.takeWhile (isNameCharacter false)
        else
          []
  if valid.length < letters.length then
    let wrong := valid.foldl (fun cursor _ => cursor.pass) cursor
    .error (fault .groupNameCharacter wrong.nextSpan)
  else if behind.isAtEnd then
    .error (fault .groupNameUnclosed behind.here)
  else if letters.isEmpty then
    .error (fault .groupNameEmpty cursor.here)
  else
    let name := String.ofList letters
    let span := behind.spanFrom cursor.position
    match names.lookup name with
    | some earlier => .error ⟨.groupNameRepeated, span, some earlier⟩
    | none => .ok (name, span, behind.pass)

/-- Begin a group behind what says its kind. -/
def beginGroup
    (state : State)
    (kind : GroupKind)
    (span : Span)
    (ignoresSpace : Bool)
    (behind : Cursor) : State :=
  { state with
    cursor := { behind with ignoresSpace := ignoresSpace }
    parts := []
    first := behind.position
    frames :=
      .group kind span state.parts state.first state.cursor.ignoresSpace ::
        state.frames }

/-- Begin a group whose place is kept. -/
def beginCapture
    (state : State)
    (span : Span)
    (behind : Cursor) : State :=
  let index := state.groups + 1
  { beginGroup state (.capture index) span behind.ignoresSpace behind with
    groups := index }

/-- Read flags for the rest of a group, or the flags of a group of their own. -/
def readFlagGroup
    (state : State)
    (span : Span)
    (inside : Position)
    (cursor : Cursor) :
    Except Fault State := do
  let (flags, behind) ← readFlags [] cursor
  let final := behind.pass
  let ignoresSpace :=
    (flagState? .ignoreSpace true flags).getD cursor.ignoresSpace
  if behind.next? = some ':' then
    .ok (beginGroup state (.plain flags) span ignoresSpace final)
  else if flags.isEmpty then
    .error (fault .repetitionOfNothing (.empty inside))
  else
    .ok
      { state with
        cursor := { final with ignoresSpace := ignoresSpace }
        parts := .flags flags (final.spanFrom span.first) :: state.parts }

/-- The beginnings of groups that look around. -/
def lookAroundMarks : List String :=
  ["?=", "?!", "?<=", "?<!"]

/-- Begin a group. The cursor stands in front of the opening parenthesis. -/
def openGroup (state : State) : Except Fault State :=
  let span := state.cursor.nextSpan
  let inside := state.cursor.passWithSpace
  match lookAroundMarks.findSome? inside.passText? with
  | some behind => .error (fault .lookAround (behind.spanFrom span.first))
  | none =>
      match (inside.passText? "?P<").or (inside.passText? "?<") with
      | some named =>
          if named.isAtEnd then
            .error (fault .groupNameUnclosed named.here)
          else do
            let (name, place, behind) ← readGroupName state.names named
            let begun := beginCapture state span behind
            .ok { begun with names := (name, place) :: state.names }
      | none =>
          match inside.passText? "?" with
          | none => .ok (beginCapture state span inside)
          | some flags =>
              if flags.isAtEnd then
                .error (fault .groupUnclosed span)
              else
                readFlagGroup state span inside.position flags

/-- The expression of the current branch up to a place. -/
def State.branch
    (state : State)
    (behind : Position) : Tree :=
  .ofParts state.parts.reverse ⟨state.first, behind⟩

/--
The expression of all branches up to a place, and what waits beneath them.
-/
def State.alternation
    (state : State)
    (behind : Position) : Tree × List Frame :=
  match state.frames with
  | .branches earlier first :: rest =>
      (.alternation (earlier.reverse ++ [state.branch behind])
        ⟨first, behind⟩, rest)
  | frames => (state.branch behind, frames)

/-- End a group. The cursor stands in front of the closing parenthesis. -/
def closeGroup (state : State) : Except Fault State :=
  let (body, frames) := state.alternation state.cursor.position
  match frames with
  | .group kind span parts first ignoredSpace :: rest =>
      let behind := state.cursor.pass
      .ok
        { state with
          cursor := { behind with ignoresSpace := ignoredSpace }
          parts := .group kind body (behind.spanFrom span.first) :: parts
          first := first
          frames := rest }
  | _ => .error (fault .groupUnopened state.cursor.nextSpan)

/-- End a branch. The cursor stands in front of the bar. -/
def endBranch (state : State) : State :=
  let branch := state.branch state.cursor.position
  let behind := state.cursor.pass
  let frames :=
    match state.frames with
    | .branches earlier first :: rest =>
        .branches (branch :: earlier) first :: rest
    | frames => .branches [branch] state.first :: frames
  { state with
    cursor := behind
    parts := []
    first := behind.position
    frames := frames }

/-- Take the last part of the current branch, which is to be repeated. -/
def takeRepeated (state : State) : Except Fault (Tree × List Tree) :=
  match state.parts with
  | [] => .error (fault .repetitionOfNothing state.cursor.here)
  | .empty _ :: _ => .error (fault .repetitionOfNothing state.cursor.here)
  | .flags _ _ :: _ => .error (fault .repetitionOfNothing state.cursor.here)
  | body :: rest => .ok (body, rest)

/--
Put a repetition in place of what it repeats; a question mark makes it short.
-/
def putRepetition
    (state : State)
    (body : Tree)
    (rest : List Tree)
    (least : Nat)
    (most : Option Nat)
    (behind : Cursor) : State :=
  let lazy := behind.next? == some '?'
  let final := if lazy then behind.pass else behind
  { state with
    cursor := final
    parts :=
      .repetition body least most (!lazy)
        (final.spanFrom body.span.first) :: rest }

/-- Read a repetition of one character. -/
def readRepetition
    (state : State)
    (least : Nat)
    (most : Option Nat) :
    Except Fault State := do
  let (body, rest) ← takeRepeated state
  .ok (putRepetition state body rest least most state.cursor.pass)

/-- The greatest count of rounds. -/
def greatestCount : Nat := 4294967295

/-- Pass blanks, whether they count or not. -/
def passBlanks (cursor : Cursor) : Cursor :=
  (cursor.rest.takeWhile Text.isBlank).foldl
    (fun cursor _ => cursor.pass) cursor

/-- Read a count of rounds; the cause of a missing one is kept for later. -/
def readCount (cursor : Cursor) : Except Fault Nat × Cursor :=
  let start := passBlanks cursor
  let (digits, behind) := start.passWhile Char.isDigit
  let span := behind.spanFrom start.position
  let final := (behind.passWhile Text.isBlank).2
  let count :=
    digits.foldl (fun count digit => 10 * count + (digit.toNat - '0'.toNat)) 0
  if digits.isEmpty then
    (.error (fault .countEmpty span), final)
  else if greatestCount < count then
    (.error (fault .countInvalid span), final)
  else
    (.ok count, final)

/-- The fault that counts of rounds are not closed. -/
def unclosedCount
    (opening : Position)
    (cursor : Cursor) : Fault :=
  fault .countUnclosed (cursor.spanFrom opening)

/-- Read the counts of a repetition up to the closing brace. -/
def readCounts
    (opening : Position)
    (cursor : Cursor) :
    Except Fault (Nat × Option Nat × Cursor) :=
  if cursor.isAtEnd then
    .error (unclosedCount opening cursor)
  else
    let (least, behind) := readCount cursor
    if behind.isAtEnd then
      .error (unclosedCount opening behind)
    else if behind.next? != some ',' then do
      let least ← least
      .ok (least, some least, behind)
    else
      let upper := behind.passWithSpace
      if upper.isAtEnd then
        .error (unclosedCount opening upper)
      else if upper.next? = some '\x7d' then do
        let least ← least
        .ok (least, none, upper)
      else do
        let least ← least
        let (most, final) := readCount upper
        let most ← most
        .ok (least, some most, final)

/--
Read a counted repetition. The cursor stands in front of the opening brace.
-/
def readCountedRepetition (state : State) : Except Fault State := do
  let (body, rest) ← takeRepeated state
  let opening := state.cursor.position
  let (least, most, behind) ← readCounts opening state.cursor.passWithSpace
  if behind.next? != some '\x7d' then
    .error (unclosedCount opening behind)
  else
    let next := putRepetition state body rest least most behind.passWithSpace
    if most.any fun most => decide (most < least) then
      .error (fault .countOrder (next.cursor.spanFrom opening))
    else
      .ok next

/-- Read one part of an expression. -/
def step
    (character : Char)
    (state : State) :
    Except Fault State :=
  match character with
  | '(' => openGroup state
  | ')' => closeGroup state
  | '|' => .ok (endBranch state)
  | '[' => do
      let (content, behind) ← readClass state.cursor
      .ok
        { state with
          cursor := behind
          parts := .classTree content :: state.parts }
  | '?' => readRepetition state 0 (some 1)
  | '*' => readRepetition state 0 none
  | '+' => readRepetition state 1 none
  | '\x7b' => readCountedRepetition state
  | character => do
      let (atom, behind) ← readAtom character state.cursor
      .ok { state with cursor := behind, parts := atom.tree :: state.parts }

/-- Read an expression from a state on. -/
def readFrom (state : State) : Except Fault State :=
  let cursor := state.cursor.passSpace
  match cursor.next? with
  | none => .ok { state with cursor := cursor }
  | some character =>
      match step character { state with cursor := cursor } with
      | .error fault => .error fault
      | .ok next =>
          if _ : next.cursor.rest.length < state.cursor.rest.length then
            readFrom next
          else
            .ok next
termination_by state.cursor.rest.length

/--
The expression that a text writes, and how many groups of it have a number.
-/
def read (text : String) : Except Fault (Tree × Nat) := do
  let start := Cursor.start text
  let final ← readFrom
    { cursor := start
      parts := []
      first := start.position
      frames := []
      groups := 0
      names := [] }
  let (tree, frames) := final.alternation final.cursor.position
  match frames with
  | .group _ span _ _ _ :: _ => .error (fault .groupUnclosed span)
  | _ =>
      match tree.tooDeep? depthLimit with
      | some span => .error (fault .tooDeep span)
      | none => .ok (tree, final.groups)

end Eisen.Pattern.Expression
