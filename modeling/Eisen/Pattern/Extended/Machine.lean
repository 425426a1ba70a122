import Eisen.Pattern.Regular

namespace Eisen.Pattern.Extended

/-!
# The matching machine

A machine that runs a program over a text. Where the program forks, the machine
goes on with one way and keeps the other; when a way fails it goes back to the
one kept last. It gives up when it has gone back too often.
-/

/-- An instruction. Offsets lead from the instruction to another one. -/
inductive Instruction where
  | accept
  | one (set : CharacterSet)
  | literal (text : List Char)
  /--
  Match a regular pattern that holds a number of groups from a first one on.
  -/
  | part (pattern : Regular) (firstGroup groups : Nat)
  /-- Go on in one way, and keep another one. -/
  | fork (first second : Int)
  | jump (offset : Int)
  | save (register : Nat)
  | clear (register : Nat)
  | restore (register : Nat)
  /-- Begin another round, or leave, and count the rounds. -/
  | round (least : Nat) (most : Option Nat) (leave : Int) (counter : Nat)
    (greedy : Bool)
  /-- The same for rounds that may be empty; behind an empty round it fails. -/
  | emptyRound (least : Nat) (leave : Int) (counter place : Nat) (greedy : Bool)
  | goBack (count : Nat)
  /-- Fail, and drop all ways kept since the fork that leads behind this. -/
  | refuse
  /-- What a group matched. -/
  | again (group : Nat)
  | matched (group : Nat)
  | searchStart
  | beginAtomic
  | endAtomic
  deriving Repr, DecidableEq

/-- A text, given by its ends: the characters from each index on. -/
structure Tape where
  tails : Array (List Char)

/-- All ends of a list, the longest first. -/
def tailsOf : List Char → List (List Char)
  | [] => [[]]
  | character :: rest => (character :: rest) :: tailsOf rest

namespace Tape

/-- The tape of a text. -/
def ofText (text : String) : Tape where
  tails := (tailsOf text.toList).toArray

/-- The characters from an index on. -/
def from?
    (tape : Tape)
    (index : Nat) : List Char :=
  tape.tails[index]?.getD []

/-- The character in front of an index. -/
def before
    (tape : Tape)
    (index : Nat) : Option Char :=
  match index with
  | 0 => none
  | previous + 1 => (tape.from? previous).head?

end Tape

/-- What the machine remembers of a way. -/
structure Situation where
  /-- The number of the next instruction. -/
  place : Nat
  /-- Where in the text the machine is. -/
  index : Nat
  registers : Array (Option Nat)
  /-- How many ways were kept where atomic parts began. -/
  atomics : List Nat

namespace Situation

/-- Go on with the instruction at an offset. -/
def goOn
    (situation : Situation)
    (offset : Int) : Situation :=
  { situation with place := ((situation.place : Int) + offset).toNat }

/-- Go on with the next instruction at an index of the text. -/
def goOnAt
    (situation : Situation)
    (index : Nat) : Situation :=
  { situation with place := situation.place + 1, index := index }

/-- The value of a register. -/
def register?
    (situation : Situation)
    (register : Nat) : Option Nat :=
  (situation.registers[register]?).join

/-- Change the value of a register. -/
def setRegister
    (situation : Situation)
    (register : Nat)
    (value : Option Nat) : Situation :=
  { situation with
    registers := situation.registers.setIfInBounds register value }

end Situation

/-- What an instruction does. -/
inductive Effect where
  | proceed (next : Situation)
  /-- Go on, and keep another way. -/
  | keep (next other : Situation)
  | fail
  /--
  Drop the ways kept since one that leads to a place, and it too; then fail.
  -/
  | failBehind (place : Nat)
  /-- Go on, and keep a number of the oldest ways only. -/
  | commit (next : Situation) (height : Nat)
  | succeed

/-- Put the places that a match noted for its groups into registers. -/
def noteGroups
    (notes : Notes)
    (firstGroup : Nat)
    (situation : Situation) :
    Nat → Situation
  | 0 => situation
  | index + 1 =>
      let group := firstGroup + index
      ((noteGroups notes firstGroup situation index).setRegister (2 * group)
          (notes.lookup (2 * (index + 1)))).setRegister (2 * group + 1)
        (notes.lookup (2 * (index + 1) + 1))

/--
Begin another round or leave, whichever is preferred, and keep the
other if allowed.
-/
def chooseRound
    (mayLeave greedy : Bool)
    (enter exit : Situation) : Effect :=
  if !mayLeave then
    .proceed enter
  else if greedy then
    .keep enter exit
  else
    .keep exit enter

/-- The effect of an instruction, where a number of ways is kept. -/
def effect
    (tape : Tape)
    (height : Nat)
    (situation : Situation) :
    Instruction → Effect
  | .accept => .succeed
  | .one set =>
      match tape.from? situation.index with
      | [] => .fail
      | character :: _ =>
          if set.holds character then
            .proceed (situation.goOnAt (situation.index + 1))
          else
            .fail
  | .literal text =>
      if text.isPrefixOf (tape.from? situation.index) then
        .proceed (situation.goOnAt (situation.index + text.length))
      else
        .fail
  | .part pattern firstGroup groups =>
      let found :=
        pattern.preferred? situation.index (tape.before situation.index)
          (tape.from? situation.index)
      match found with
      | none => .fail
      | some (index, notes) =>
          .proceed ((noteGroups notes firstGroup situation groups).goOnAt index)
  | .fork first second => .keep (situation.goOn first) (situation.goOn second)
  | .jump offset => .proceed (situation.goOn offset)
  | .save register =>
      .proceed ((situation.setRegister register situation.index).goOn 1)
  | .clear register =>
      .proceed ((situation.setRegister register (some 0)).goOn 1)
  | .restore register =>
      .proceed
        (situation.goOnAt ((situation.register? register).getD situation.index))
  | .round least most leave counter greedy =>
      let rounds := (situation.register? counter).getD 0
      if most = some rounds then
        .proceed (situation.goOn leave)
      else
        let counted := situation.setRegister counter (some (rounds + 1))
        chooseRound (decide (least ≤ rounds)) greedy (counted.goOn 1)
          (counted.goOn leave)
  | .emptyRound least leave counter place greedy =>
      let rounds := (situation.register? counter).getD 0
      if 0 < rounds ∧ situation.register? place = some situation.index then
        .fail
      else
        let counted := situation.setRegister counter (some (rounds + 1))
        if least ≤ rounds then
          let noted := counted.setRegister place situation.index
          chooseRound true greedy (noted.goOn 1) (noted.goOn leave)
        else
          .proceed (counted.goOn 1)
  | .goBack count =>
      if situation.index < count then
        .fail
      else
        .proceed (situation.goOnAt (situation.index - count))
  | .refuse => .failBehind (situation.place + 1)
  | .again group =>
      match situation.register? (2 * group),
          situation.register? (2 * group + 1) with
      | some first, some behind =>
          let text := (tape.from? first).take (behind - first)
          if text.isPrefixOf (tape.from? situation.index) then
            .proceed (situation.goOnAt (situation.index + text.length))
          else
            .fail
      | _, _ => .fail
  | .matched group =>
      if (situation.register? (2 * group)).isSome then
        .proceed (situation.goOn 1)
      else
        .fail
  | .searchStart =>
      if situation.index = 0 then .proceed (situation.goOn 1) else .fail
  | .beginAtomic =>
      .proceed { situation.goOn 1 with atomics := height :: situation.atomics }
  | .endAtomic =>
      match situation.atomics with
      | [] => .proceed (situation.goOn 1)
      | kept :: rest => .commit { situation.goOn 1 with atomics := rest } kept

/-- Why the machine gives up. -/
inductive Failure where
  | tooManyRetries
  | tooManyWays
  deriving Repr, DecidableEq

/-- The wording of a failure. -/
def Failure.message : Failure → String
  | .tooManyRetries => "Max limit for backtracking count exceeded"
  | .tooManyWays => "Max stack size exceeded for backtracking"

/-- How often the machine may go back to a way it has kept. -/
def retryLimit : Nat := 1000000

/-- How many ways the machine may keep. -/
def wayLimit : Nat := 1000000

/--
The ways a machine has kept, the latest first, and how often it has gone back.
-/
structure Kept where
  ways : List Situation
  height : Nat
  retries : Nat

/-- Drop the ways kept since one that leads to a place, and it too. -/
def Kept.dropBehind
    (kept : Kept)
    (place : Nat) : Kept :=
  let dropped := kept.ways.takeWhile fun way => way.place != place
  { kept with
    ways := kept.ways.drop (dropped.length + 1)
    height := kept.height - (dropped.length + 1) }

/-- Go back to the way kept last; there may be none. -/
def Kept.back? (kept : Kept) : Except Failure (Option (Situation × Kept)) :=
  match kept.ways with
  | [] => .ok none
  | way :: rest =>
      if retryLimit ≤ kept.retries then
        .error .tooManyRetries
      else
        .ok (some
          (way,
            { ways := rest
              height := kept.height - 1
              retries := kept.retries + 1 }))

/-- Run a program for at most `steps` instructions; whether it accepts. -/
def runFor
    (program : Array Instruction)
    (tape : Tape) :
    Nat → Situation → Kept → Except Failure Bool
  | 0, _, _ => .error .tooManyRetries
  | steps + 1, situation, kept =>
      let back (kept : Kept) : Except Failure Bool :=
        match kept.back? with
        | .error failure => .error failure
        | .ok none => .ok false
        | .ok (some (way, fewer)) => runFor program tape steps way fewer
      match program[situation.place]? with
      | none => .ok false
      | some instruction =>
          match effect tape kept.height situation instruction with
          | .succeed => .ok true
          | .proceed next => runFor program tape steps next kept
          | .keep next other =>
              if wayLimit ≤ kept.height then
                .error .tooManyWays
              else
                runFor program tape steps next
                  { kept with
                    ways := other :: kept.ways
                    height := kept.height + 1 }
          | .fail => back kept
          | .failBehind place => back (kept.dropBehind place)
          | .commit next height =>
              runFor program tape steps next
                { kept with
                  ways := kept.ways.drop (kept.height - height)
                  height := height }

/-- A program with the number of registers it uses. -/
structure Program where
  instructions : Array Instruction
  registers : Nat
  deriving Repr, DecidableEq

/-- More instructions than a program runs before it has gone back too often. -/
def stepLimit : Nat := 1000000000000

/-- Whether a program finds a match in a text. -/
def Program.search
    (program : Program)
    (text : String) :
    Except Failure Bool :=
  runFor program.instructions (.ofText text) stepLimit
    { place := 0
      index := 0
      registers := Array.replicate program.registers none
      atomics := [] }
    { ways := [], height := 0, retries := 0 }

end Eisen.Pattern.Extended
