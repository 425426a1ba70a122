import Eisen.Pattern.Form
import Eisen.Text.ByteRange

namespace Eisen.Pattern

/-!
# Sizes of programs

A pattern is matched by two programs, one that reads a text forwards and notes
the groups, and one that reads it backwards. Programs read bytes, and each round
of a repetition that is counted has states of its own. An expression is refused
if one of its programs would be too large.
-/

/-- The greatest size of a program in bytes. -/
def sizeLimit : Nat := 10485760

/-- The bytes of a state, beside what it lists. -/
def stateSize : Nat := 32

/-- The bytes of each way that a state chooses between. -/
def waySize : Nat := 4

/-- The bytes of each range that a state reads a byte by. -/
def rangeSize : Nat := 8

/-- How a program reads a text. -/
inductive Order where
  | forwards
  | backwards
  deriving Repr, DecidableEq

/-- The states that are added for a pattern, in order. -/
inductive Plan where
  /-- A number of states that list a number of bytes. -/
  | states (count listed : Nat)
  /-- The states that read one of some sequences of bytes backwards. -/
  | oneOf (sequences : List Text.ByteSequence)
  | both (first second : Plan)
  | times (count : Nat) (body : Plan)
  deriving Repr, DecidableEq

namespace Plan

/-- One state that lists nothing. -/
def state : Plan :=
  .states 1 0

/-- One state that chooses between a number of ways. -/
def choice (ways : Nat) : Plan :=
  .states 1 (waySize * ways)

/-- One state that reads a byte by a number of ranges. -/
def table (ranges : Nat) : Plan :=
  .states 1 (rangeSize * ranges)

/-- Plans one after the other. -/
def inOrder : List Plan → Plan
  | [] => .states 0 0
  | [plan] => plan
  | plan :: rest => .both plan (inOrder rest)

end Plan

/-!
## Sets of characters

Forwards, sequences of bytes that begin alike share their first states, and
states behind which the same sequences follow are one state. Backwards,
sequences that begin alike share states too, as far as the states are
remembered: there is room for a thousand of them, and a state may take the place
of an earlier one.
-/

/-- Sequences by the range of their first byte, which is taken off. -/
def byFirstRange (sequences : List Text.ByteSequence) :
    List (List Text.ByteSequence) :=
  ((sequences.filter fun sequence => !sequence.isEmpty).splitBy
    fun left right => left.head? == right.head?).map fun group =>
      group.map List.tail

/--
What can follow at each state that reads one of some sequences,
which have a length.
-/
def followings : Nat → List Text.ByteSequence → List (List Text.ByteSequence)
  | 0, _ => []
  | length + 1, sequences =>
      let groups := byFirstRange sequences
      if groups.isEmpty then
        []
      else
        sequences :: (groups.flatMap (followings length)).eraseDups

/-- The most bytes of a character. -/
def greatestLength : Nat := 4

/-- The plan of a set of characters that is read forwards. -/
def forwardsPlan (sequences : List Text.ByteSequence) : Plan :=
  let nodes := (followings greatestLength sequences).eraseDups
  .both .state
    (.inOrder (nodes.map fun node => .table (byFirstRange node).length))

/-- The plan of a set of characters. -/
def setPlan
    (order : Order)
    (set : CharacterSet) : Plan :=
  if set.isAscii then
    .both .state (.table set.ranges.length)
  else
    let sequences := set.ranges.flatMap Text.byteSequences
    match order with
    | .forwards => forwardsPlan sequences
    | .backwards => .oneOf sequences

/-- A state that reads a byte of a range and goes on with another state. -/
structure ByteStep where
  next : Nat
  first : Nat
  last : Nat
  deriving Repr, DecidableEq

/-- How many states are remembered. -/
def memorySize : Nat := 1000

/-- The place where a state is remembered. -/
def ByteStep.slot (step : ByteStep) : Nat :=
  let mix (value : UInt64) (number : Nat) : UInt64 :=
    (value ^^^ UInt64.ofNat number) * 1099511628211
  (mix (mix (mix 14695981039346656037 step.next) step.first) step.last).toNat %
    memorySize

/-- The states that have been added for a set, and those that are remembered. -/
structure Memory where
  /-- The number of the next state. -/
  next : Nat
  /-- What each place has remembered, the latest first. -/
  slots : List (Nat × ByteStep × Nat)

/-- The state that takes a step, which is added if it is not remembered. -/
def Memory.add
    (memory : Memory)
    (step : ByteStep) : Nat × Memory :=
  let slot := step.slot
  let added : Memory :=
    { next := memory.next + 1
      slots := (slot, step, memory.next) :: memory.slots }
  match memory.slots.lookup slot with
  | some (known, number) =>
      if known = step then (number, memory) else (memory.next, added)
  | none => (memory.next, added)

/--
Add the states that read a sequence backwards and go on with another state.
-/
def Memory.addSequence
    (memory : Memory)
    (next : Nat) :
    Text.ByteSequence → Memory
  | [] => memory
  | (first, last) :: rest =>
      let (state, memory) := memory.add ⟨next, first, last⟩
      memory.addSequence state rest

/--
How many states are added for some sequences behind a number of earlier states.
-/
def addedStates
    (earlier : Nat)
    (sequences : List Text.ByteSequence) : Nat :=
  let start : Memory := ⟨earlier + 2, []⟩
  let final := sequences.foldl
    (fun memory sequence => memory.addSequence (earlier + 1) sequence)
    start
  final.next - earlier

/-!
## Choices between literals

Literals that begin alike share states up to where one of them ends: what comes
behind an end is tried later, and has states of its own.
-/

/--
Words in the parts between which a word has ended; at the front one
end counts once.
-/
def chunks (words : List (List Nat)) : List (List (List Nat)) :=
  let ended := words.takeWhile List.isEmpty
  let rest := words.dropWhile List.isEmpty
  (if ended.isEmpty then [] else [[]]) ++ split rest
where
  /-- The parts between words that have ended. -/
  split : List (List Nat) → List (List (List Nat))
    | [] => [[]]
    | [] :: rest => [] :: split rest
    | word :: rest =>
        match split rest with
        | [] => [[word]]
        | first :: more => (word :: first) :: more

/-- Words by their first byte, which is taken off. -/
def byFirstByte (words : List (List Nat)) : List (List (List Nat)) :=
  (words.filterMap List.head?).eraseDups.map fun byte =>
    (words.filter fun word => word.head? == some byte).map List.tail

/--
The plan of a choice between words of at most a length, behind the
state of their end.
-/
def wordsPlan : Nat → List (List Nat) → Plan
  | 0, _ => .states 0 0
  | length + 1, words =>
      if words.all List.isEmpty then
        .states 0 0
      else
        let groups := (chunks words).map byFirstByte
        let tables :=
          (groups.filter fun group => !group.isEmpty).map fun group =>
          if group.length = 1 then Plan.state else Plan.table group.length
        let ways := tables.length + (groups.length - 1)
        .inOrder
          (.choice ways :: tables ++ (groups.flatten.map (wordsPlan length)))

/-- The bytes of a literal, in the order in which they are read. -/
def wordOf
    (order : Order)
    (text : List Char) : List Nat :=
  let bytes := (String.ofList text).toUTF8.toList.map UInt8.toNat
  match order with
  | .forwards => bytes
  | .backwards => bytes.reverse

/-- The plan of a choice between literals. -/
def literalsPlan
    (order : Order)
    (literals : List (List Char)) : Plan :=
  let words := literals.map (wordOf order)
  .both .state (wordsPlan ((words.map List.length).foldl max 0) words)

namespace Form

mutual

/--
The least number of characters that a form consumes, unless it matches nothing.
-/
def leastLength? : Form → Option Nat
  | .empty => some 0
  | .literal text => some text.length
  | .one set => if set.ranges.isEmpty then none else some 1
  | .look _ => some 0
  | .repetition body least _ _ => body.leastLength?.map (least * ·)
  | .group _ body => body.leastLength?
  | .concatenation parts =>
      (leastLengths? parts).map fun lengths => lengths.foldl (· + ·) 0
  | .alternation branches =>
      (leastLengths? branches).bind fun lengths => lengths.min?

/-- The least numbers of characters of some forms. -/
def leastLengths? : List Form → Option (List Nat)
  | [] => some []
  | form :: rest => do
      let length ← form.leastLength?
      let lengths ← leastLengths? rest
      some (length :: lengths)

end

/-- The text of a literal. -/
def text? : Form → Option (List Char)
  | .literal text => some text
  | _ => none

/-- The plan of some rounds of a body that has a plan. -/
def roundsPlan
    (consumes : Bool)
    (body : Plan)
    (least : Nat) :
    Option Nat → Plan
  | none =>
      if 0 < least then
        .both (.times least body) (.choice 2)
      else if consumes then
        .both (.choice 2) body
      else
        .inOrder [body, .choice 2, .choice 2, .state]
  | some most =>
      if least = most then
        .times least body
      else if least = 0 ∧ most = 1 then
        .inOrder [.choice 2, body, .state]
      else
        let required := if least = 0 then .state else .times least body
        .inOrder [required, .state,
          .times (most - least) (.both (.choice 2) body)]

mutual

/-- The plan of a form. -/
def plan (order : Order) : Form → Plan
  | .empty => .state
  | .literal text => .states (wordOf order text).length 0
  | .one set => setPlan order set
  | .look _ => .state
  | .repetition body least most _ =>
      roundsPlan (body.leastLength?.any (0 < ·)) (body.plan order) least most
  | .group _ body =>
      match order with
      | .forwards => .inOrder [.state, body.plan order, .state]
      | .backwards => body.plan order
  | .concatenation parts =>
      match order with
      | .forwards => .inOrder (plans order parts)
      | .backwards => .inOrder (plans order parts).reverse
  | .alternation branches =>
      match branches.mapM text? with
      | some literals => literalsPlan order literals
      | none =>
          let plans := plans order branches
          .inOrder
            (plans.take 2 ++ [.choice plans.length, .state] ++ plans.drop 2)

/-- The plans of some forms. -/
def plans (order : Order) : List Form → List Plan
  | [] => []
  | form :: rest => form.plan order :: plans order rest

end

mutual

/--
Whether a form matches only where one of its ends is at an end of the text.
-/
def isAnchored (order : Order) : Form → Bool
  | .look condition =>
      match order with
      | .forwards => condition == .textStart
      | .backwards => condition == .textEnd
  | .repetition body least _ _ => 0 < least && body.isAnchored order
  | .group _ body => body.isAnchored order
  | .concatenation parts => isAnyAnchored order parts
  | .alternation branches => areAllAnchored order branches
  | _ => false

/--
Whether a part that the program reads before it consumes a
character is anchored.
-/
def isAnyAnchored (order : Order) : List Form → Bool
  | [] => false
  | form :: rest =>
      match order with
      | .forwards =>
          form.isAnchored order ||
            (form.consumesNothing && isAnyAnchored order rest)
      | .backwards =>
          isAnyAnchored order rest ||
            (allConsumeNothing rest && form.isAnchored order)

/-- Whether all of some forms are anchored. -/
def areAllAnchored (order : Order) : List Form → Bool
  | [] => true
  | form :: rest => form.isAnchored order && areAllAnchored order rest

end

/-- The plan of the whole program, which first looks for a place to begin. -/
def programPlan
    (order : Order)
    (form : Form) : Plan :=
  let search :=
    if form.isAnchored order then
      .state
    else
      .inOrder [.choice 2, .state, .table 1]
  let whole : Form :=
    match order with
    | .forwards => .group 0 form
    | .backwards => form
  .inOrder [search, whole.plan order, .state]

end Form

/-- How much of a program there is. -/
structure Progress where
  states : Nat
  bytes : Nat
  deriving Repr, DecidableEq

/-- Add states to a program, unless it becomes too large. -/
def Progress.add?
    (progress : Progress)
    (count listed : Nat) : Option Progress :=
  let bytes := progress.bytes + stateSize * count + listed
  if bytes ≤ sizeLimit then some ⟨progress.states + count, bytes⟩ else none

/-- Do something a number of times, unless it fails. -/
def timesUnlessFailed
    {State : Type}
    (step : State → Option State) :
    Nat → State → Option State
  | 0, state => some state
  | count + 1, state =>
      match step state with
      | some next => timesUnlessFailed step count next
      | none => none

/-- Add the states of a plan to a program, unless it becomes too large. -/
def Plan.run : Plan → Progress → Option Progress
  | .states count listed, progress => progress.add? count listed
  | .oneOf sequences, progress =>
      progress.add? (addedStates progress.states sequences)
        (waySize * sequences.length)
  | .both first second, progress =>
      match first.run progress with
      | some next => second.run next
      | none => none
  | .times count body, progress => timesUnlessFailed body.run count progress

/-- Whether the programs of a form are not too large. -/
def Form.fits (form : Form) : Bool :=
  [Order.forwards, Order.backwards].all fun order =>
    ((form.programPlan order).run ⟨0, 0⟩).isSome

end Eisen.Pattern
