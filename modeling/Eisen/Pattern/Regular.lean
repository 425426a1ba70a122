import Eisen.Pattern.CharacterSet

namespace Eisen

/-!
# Regular patterns

A regular pattern is matched by the moves it allows at a place: to stop there,
or to consume a character of a set and go on with another pattern. The moves
stand in order of preference, so the same moves decide whether a pattern occurs
in a text and which of its occurrences counts.
-/

namespace Pattern

/-- Which characters belong to words. -/
inductive Alphabet where
  | ascii
  | full
  deriving Repr, DecidableEq

/-- The characters of words. -/
def Alphabet.word : Alphabet → CharacterSet
  | .ascii => .asciiWord
  | .full => .word

/-- The characters on both sides of a place in a text. -/
structure Neighbours where
  before : Option Char
  after : Option Char
  deriving Repr, DecidableEq

/-- A condition on a place in a text. -/
inductive Look where
  | textStart
  | textEnd
  | lineStart
  | lineEnd
  /-- The start of a line that a carriage return may end too. -/
  | anyLineStart
  /-- The end of a line that a carriage return may end too. -/
  | anyLineEnd
  | wordBoundary (alphabet : Alphabet)
  | noWordBoundary (alphabet : Alphabet)
  | wordStart (alphabet : Alphabet)
  | wordEnd (alphabet : Alphabet)
  /-- No word goes on from before the place. -/
  | noWordBefore (alphabet : Alphabet)
  /-- No word goes on behind the place. -/
  | noWordAfter (alphabet : Alphabet)
  deriving Repr, DecidableEq

/-- Whether a neighbour is part of a word. -/
def Alphabet.isWord
    (alphabet : Alphabet)
    (neighbour : Option Char) : Bool :=
  neighbour.any alphabet.word.holds

/-- Whether a condition holds between two neighbours. -/
def Look.holds
    (look : Look)
    (place : Neighbours) : Bool :=
  match look with
  | .textStart => place.before.isNone
  | .textEnd => place.after.isNone
  | .lineStart => place.before.isNone || place.before == some '\n'
  | .lineEnd => place.after.isNone || place.after == some '\n'
  | .anyLineStart =>
      place.before.isNone || place.before == some '\n' ||
        (place.before == some '\r' && place.after != some '\n')
  | .anyLineEnd =>
      place.after.isNone || place.after == some '\r' ||
        (place.after == some '\n' && place.before != some '\r')
  | .wordBoundary alphabet =>
      alphabet.isWord place.before != alphabet.isWord place.after
  | .noWordBoundary alphabet =>
      alphabet.isWord place.before == alphabet.isWord place.after
  | .wordStart alphabet =>
      !alphabet.isWord place.before && alphabet.isWord place.after
  | .wordEnd alphabet =>
      alphabet.isWord place.before && !alphabet.isWord place.after
  | .noWordBefore alphabet => !alphabet.isWord place.before
  | .noWordAfter alphabet => !alphabet.isWord place.after

/-- A regular pattern. -/
inductive Regular where
  | empty
  | one (set : CharacterSet)
  | look (look : Look)
  /-- Notes the current place under a number. -/
  | mark (slot : Nat)
  | sequence (first second : Regular)
  | either (first second : Regular)
  /--
  A number of rounds, as many as possible or as few as possible. Where a round
  can be empty, it stands for all rounds that are required.
  -/
  | repeated (body : Regular) (least : Nat) (most : Option Nat) (greedy : Bool)
  /--
  One round or more, which may be empty. An empty round is the only one; once a
  round is over, `begun` holds, and no further round is empty.
  -/
  | loop (body : Regular) (begun greedy : Bool)
  deriving Repr, DecidableEq

namespace Regular

/-- A pattern any number of times. -/
def many (body : Regular) : Regular :=
  .repeated body 0 none true

/-- A pattern at least once. -/
def some (body : Regular) : Regular :=
  .repeated body 1 none true

/-- A pattern or nothing. -/
def nullable (body : Regular) : Regular :=
  .repeated body 0 (.some 1) true

/-- A pattern in front of another one. -/
def followedBy : Regular → Regular → Regular
  | .empty, second => second
  | first, second => .sequence first second

/-- Some patterns one after the other. -/
def inOrder : List Regular → Regular
  | [] => .empty
  | [pattern] => pattern
  | pattern :: rest => .sequence pattern (inOrder rest)

/-- One of some patterns, the first ones preferred. -/
def oneOf : List Regular → Regular
  | [] => .one .none
  | [pattern] => pattern
  | pattern :: rest => .either pattern (oneOf rest)

/-- The characters of a text. -/
def literal (text : String) : Regular :=
  inOrder (text.toList.map fun character => .one (.single character))

/-- Whether a pattern can match nothing, at some place. -/
def canBeEmpty : Regular → Bool
  | .empty => true
  | .one _ => false
  | .look _ => true
  | .mark _ => true
  | .sequence first second => first.canBeEmpty && second.canBeEmpty
  | .either first second => first.canBeEmpty || second.canBeEmpty
  | .repeated body least _ _ => least == 0 || body.canBeEmpty
  | .loop body begun _ => begun || body.canBeEmpty

/--
Whether a pattern matches nothing only where it cannot consume a character.
-/
def prefersConsuming : Regular → Bool
  | .empty => true
  | .one _ => true
  | .look _ => true
  | .mark _ => true
  | .sequence first second => first.prefersConsuming && second.prefersConsuming
  | .either first second => !first.canBeEmpty && second.prefersConsuming
  | .repeated body _ _ greedy => greedy && body.prefersConsuming
  | .loop body _ greedy => greedy && body.prefersConsuming

/-- A pattern or nothing, whichever is preferred. -/
def optionally
    (greedy : Bool)
    (body : Regular) : Regular :=
  if greedy then .either body .empty else .either .empty body

/-- Up to a number of rounds, all of them written out. -/
def optionalRounds
    (greedy : Bool)
    (body : Regular) :
    Nat → Regular
  | 0 => .empty
  | count + 1 =>
      optionally greedy (.sequence body (optionalRounds greedy body count))

/--
How many rounds that may be empty are written out for the sake of preference.
-/
def writtenRounds : Nat := 100

/-- A number of rounds that may be empty. -/
def requiredRounds
    (body : Regular)
    (count : Nat) : Regular :=
  if body.prefersConsuming || decide (writtenRounds < count) then
    .repeated body count (.some count) true
  else
    inOrder (List.replicate count body)

/-- Some rounds, which may be empty where the body may be empty. -/
def rounds
    (body : Regular)
    (least : Nat)
    (most : Option Nat)
    (greedy : Bool) : Regular :=
  if !body.canBeEmpty then
    .repeated body least most greedy
  else
    match most with
    | none =>
        if least = 0 then
          optionally greedy (.loop body false greedy)
        else
          inOrder [body.requiredRounds (least - 1), .loop body false greedy]
    | .some most =>
        let further :=
          if (greedy && body.prefersConsuming) ||
              decide (writtenRounds < most - least) then
            .repeated body 0 (.some (most - least)) greedy
          else
            optionalRounds greedy body (most - least)
        inOrder [body.requiredRounds least, further]

/-- A pattern whose start and end are noted under the numbers of a group. -/
def group
    (index : Nat)
    (body : Regular) : Regular :=
  .sequence (.mark (2 * index)) (.sequence body (.mark (2 * index + 1)))

end Regular

/--
What a pattern can do at a place: stop, or consume a character of a set and go
on. On the way it passes marks.
-/
structure Move where
  marks : List Nat
  next : Option (CharacterSet × Regular)
  deriving Repr, DecidableEq

namespace Move

/-- To stop at once. -/
def stop : Move where
  marks := []
  next := none

/-- Whether a move stops. -/
def isStop (move : Move) : Bool :=
  move.next.isNone

/-- A move behind other marks. -/
def afterMarks
    (marks : List Nat)
    (move : Move) : Move where
  marks := marks ++ move.marks
  next := move.next

/-- A move that goes on with one more pattern; a stop is left as it is. -/
def continuedBy
    (second : Regular)
    (move : Move) : Move where
  marks := move.marks
  next := move.next.map fun (set, rest) => (set, rest.followedBy second)

/-- Drop all stops behind the first one, which is preferred to them. -/
def firstStopOnly : List Move → List Move
  | [] => []
  | move :: rest =>
      if move.isStop then
        move :: rest.filter fun other => !other.isStop
      else
        move :: firstStopOnly rest

end Move

/-- The moves of a pattern at a place, the preferred ones first. -/
def Regular.moves
    (place : Neighbours) :
    Regular → List Move
  | .empty => [.stop]
  | .one set => [⟨[], .some (set, .empty)⟩]
  | .look condition => if condition.holds place then [.stop] else []
  | .mark slot => [⟨[slot], none⟩]
  | .sequence first second =>
      let front := first.moves place
      let behind := if front.any Move.isStop then second.moves place else []
      Move.firstStopOnly (front.flatMap fun move =>
        if move.isStop then
          behind.map (Move.afterMarks move.marks)
        else
          [move.continuedBy second])
  | .either first second =>
      Move.firstStopOnly (first.moves place ++ second.moves place)
  | .repeated body least most greedy =>
      if most = .some 0 then
        [.stop]
      else
        let round := body.moves place
        let required := if round.any Move.isStop then 0 else least - 1
        let again := Regular.repeated body required (most.map (· - 1)) greedy
        let entered := round.map (Move.continuedBy again)
        if 0 < least then
          entered
        else if greedy then
          Move.firstStopOnly (entered ++ [.stop])
        else
          Move.firstStopOnly (.stop :: entered)
  | .loop body begun greedy =>
      let entered :=
        (body.moves place).map (Move.continuedBy (.loop body true greedy))
      let further := entered.filter fun move => !move.isStop
      if !begun then
        entered
      else if greedy then
        further ++ [.stop]
      else
        .stop :: further

/-- What is left of a pattern after a move that consumes a character. -/
def Move.rest?
    (character : Char)
    (move : Move) : Option Regular :=
  move.next.bind fun (set, rest) =>
    if set.holds character then some rest else none

namespace Regular

/--
Whether a pattern occurs in the rest of a text, or one of the patterns that
earlier characters left is completed there.
-/
def occursFrom
    (pattern : Regular)
    (begun : List Regular)
    (before : Option Char) :
    List Char → Bool
  | [] =>
      (begun ++ [pattern]).any fun rest =>
        (rest.moves ⟨before, none⟩).any Move.isStop
  | character :: text =>
      let moves := (begun ++ [pattern]).flatMap fun rest =>
        rest.moves ⟨before, .some character⟩
      moves.any Move.isStop ||
        pattern.occursFrom (moves.filterMap (Move.rest? character)).eraseDups
          (.some character) text

/-- Whether a pattern matches a part of a text. -/
def occursIn
    (pattern : Regular)
    (text : String) : Bool :=
  pattern.occursFrom [] none text.toList

end Regular

/-- The places that marks have noted, the latest first. -/
abbrev Notes := List (Nat × Nat)

/-- One way in which a pattern has begun to match. -/
structure Thread where
  rest : Regular
  notes : Notes

/-- A move of a thread, with the notes it takes at an index. -/
structure NotedMove where
  move : Move
  notes : Notes

/-- The moves of a thread. -/
def Thread.moves
    (thread : Thread)
    (index : Nat)
    (place : Neighbours) : List NotedMove :=
  (thread.rest.moves place).map fun move =>
    { move := move
      notes :=
        (move.marks.map fun slot => (slot, index)).reverse ++ thread.notes }

/-- The thread that a move leads to if it consumes a character. -/
def NotedMove.thread?
    (character : Char)
    (noted : NotedMove) : Option Thread :=
  (noted.move.rest? character).map fun rest =>
    { rest := rest, notes := noted.notes }

/--
The preferred match that threads lead to: the index behind it, and its notes. A
stop is preferred to all moves behind it.
-/
def preferredFrom
    (threads : List Thread)
    (best : Option (Nat × Notes))
    (index : Nat)
    (before : Option Char)
    (text : List Char) :
    Option (Nat × Notes) :=
  let moves :=
    threads.flatMap fun thread => thread.moves index ⟨before, text.head?⟩
  let best :=
    match moves.find? fun noted => noted.move.isStop with
    | some noted => some (index, noted.notes)
    | none => best
  match text with
  | [] => best
  | character :: rest =>
      let going := moves.takeWhile fun noted => !noted.move.isStop
      let next :=
        (going.filterMap (NotedMove.thread? character)).eraseDupsBy
          fun left right =>
          left.rest == right.rest
      if next.isEmpty then
        best
      else
        preferredFrom next best (index + 1) (some character) rest

/-- The preferred match of a pattern at the front of a text. -/
def Regular.preferred?
    (pattern : Regular)
    (index : Nat)
    (before : Option Char)
    (text : List Char) :
    Option (Nat × Notes) :=
  preferredFrom [{ rest := pattern, notes := [] }] none index before text

end Pattern

end Eisen
