import Eisen.Pattern.CharacterSet
import Eisen.Pattern.Expression.Escape
import Eisen.Pattern.Extended.Tree

namespace Eisen.Pattern.Extended

/-!
# Reading extended expressions

Sets in brackets are not looked into: their text is kept in the notation of
expressions, with escapes written out. A text that is no extended expression is
not read at all.
-/

/-- The switches at a place in an expression. -/
structure Modes where
  ignoreCase : Bool
  multiLine : Bool
  dotMatchesAll : Bool
  swapGreed : Bool
  ignoreSpace : Bool
  deriving Repr, DecidableEq

/-- The state of reading an expression. -/
structure State where
  rest : List Char
  modes : Modes
  /-- How many groups have been opened. -/
  groups : Nat
  names : List (String × Nat)
  /-- The groups that escapes refer to. -/
  referred : List Nat
  /-- Whether a group is referred to by its number. -/
  usesNumbers : Bool
  /-- A bound on the numbers of groups. -/
  bound : Nat

/-- Reading a part of an expression, which may fail. -/
abbrev Reader (α : Type) := StateT State Option α

/-- The parts of an expression that are passed over. -/
inductive Filler where
  | none
  /-- A comment up to the end of the line. -/
  | line
  /-- A comment in parentheses. -/
  | enclosed
  deriving Repr, DecidableEq

/--
What is behind blanks and comments; a comment in parentheses must be closed.
-/
def behindFiller
    (ignoresSpace : Bool) :
    Filler → List Char → Option (List Char)
  | .enclosed, [] => none
  | _, [] => some []
  | .line, character :: rest =>
      behindFiller ignoresSpace (if character = '\n' then .none else .line) rest
  | .enclosed, ')' :: rest => behindFiller ignoresSpace .none rest
  | .enclosed, ['\\'] => none
  | .enclosed, '\\' :: _ :: rest => behindFiller ignoresSpace .enclosed rest
  | .enclosed, _ :: rest => behindFiller ignoresSpace .enclosed rest
  | .none, '(' :: '?' :: '#' :: rest => behindFiller ignoresSpace .enclosed rest
  | .none, character :: rest =>
      if !ignoresSpace then
        some (character :: rest)
      else if character = '#' then
        behindFiller ignoresSpace .line rest
      else if character = ' ' ∨ character = '\r' ∨ character = '\n' ∨
          character = '\t' then
        behindFiller ignoresSpace .none rest
      else
        some (character :: rest)

/-- Pass blanks and comments. -/
def passFiller : Reader Unit := do
  let state ← get
  let rest ← behindFiller state.modes.ignoreSpace .none state.rest
  set { state with rest := rest }

/-- The characters that are left. -/
def remaining : Reader (List Char) := do
  pure (← get).rest

/-- Go on with other characters. -/
def continueWith (rest : List Char) : Reader Unit :=
  modify fun state => { state with rest := rest }

/-- Pass a text if it comes next. -/
def passText (text : String) : Reader Bool := do
  let rest ← remaining
  if text.toList.isPrefixOf rest then
    continueWith (rest.drop text.length)
    pure true
  else
    pure false

/-- Pass a text that must come next. -/
def requireText (text : String) : Reader Unit := do
  if ← passText text then pure () else failure

/-- Whether a character may stand in a name. -/
def isNameCharacter (character : Char) : Bool :=
  character == '_' || CharacterSet.nameLetter.holds character ||
    CharacterSet.nameNumber.holds character

/-- Read a name and what closes it. -/
def readName (closing : String) : Reader String := do
  let rest ← remaining
  let name := rest.takeWhile isNameCharacter
  if name.isEmpty then
    failure
  else
    continueWith (rest.drop name.length)
    requireText closing
    pure (String.ofList name)

/-- The number that decimal digits write. -/
def decimal (digits : List Char) : Nat :=
  digits.foldl (fun number digit => 10 * number + (digit.toNat - '0'.toNat)) 0

/-- The greatest number that can be written. -/
def greatestNumber : Nat := 18446744073709551615

/-- Read decimal digits, if there are any and their number is not too great. -/
def readDecimal? : Reader (Option Nat) := do
  let rest ← remaining
  let digits := rest.takeWhile Char.isDigit
  if digits.isEmpty ∨ greatestNumber < decimal digits then
    pure none
  else
    continueWith (rest.drop digits.length)
    pure (some (decimal digits))

/-- Refer to a group, which must have been opened. -/
def referTo (group : Nat) : Reader Tree := do
  let state ← get
  if state.groups < group then failure else pure (.reference group)

/-- Read a reference by number. -/
def readNumberReference : Reader Tree := do
  match ← readDecimal? with
  | some group =>
      if group < (← get).bound then
        modify fun state => { state with usesNumbers := true }
        referTo group
      else
        failure
  | none => failure

/-- Read a reference by name, or by a number in place of a name. -/
def readNameReference (closing : String) : Reader Tree := do
  let name ← readName closing
  match (← get).names.lookup name with
  | some group => referTo group
  | none =>
      if name.toList.all Char.isDigit then
        referTo (decimal name.toList)
      else
        failure

/-- Read the code of a character: a number of digits, or digits in braces. -/
def readHex (count : Nat) : Reader Tree := do
  let rest ← remaining
  let isHex (digit : Char) : Bool := (Text.hexValue? digit).isSome
  let front := rest.take count
  let (digits, behind) ←
    if front.length = count ∧ front.all isHex then
      pure (front, rest.drop count)
    else
      match rest with
      | '\x7b' :: inner =>
          let digits := inner.takeWhile isHex
          if digits.isEmpty ∨ 8 < digits.length ∨
              (inner.drop digits.length).head? ≠ some '\x7d' then
            failure
          else
            pure (digits, inner.drop (digits.length + 1))
      | _ => failure
  continueWith behind
  match Expression.hexCharacter? digits with
  | some character => pure (.literal character (← get).modes.ignoreCase)
  | none => failure

/-- Read the name of a property behind its letter, as it is written. -/
def readProperty (letter : Char) : Reader Tree := do
  match ← remaining with
  | [] => failure
  | '\x7b' :: inner =>
      let name := inner.takeWhile (· != '\x7d')
      if name.length = inner.length then
        failure
      else
        continueWith (inner.drop (name.length + 1))
        pure (.written (['\\', letter, '\x7b'] ++ name ++ ['\x7d']) 1
          (← get).modes.ignoreCase)
  | character :: rest =>
      continueWith rest
      pure (.written ['\\', letter, character] 1 (← get).modes.ignoreCase)

/-- The characters with an escape of one letter. -/
def letterEscape? : Char → Option Char
  | 'a' => some '\x07'
  | 'b' => some '\x08'
  | 'e' => some '\x1b'
  | 'f' => some '\x0c'
  | 'n' => some '\n'
  | 'r' => some '\r'
  | 't' => some '\t'
  | 'v' => some '\x0b'
  | _ => none

/-- The letters whose escapes are no characters outside of brackets. -/
def isCondition (letter : Char) : Bool :=
  "kAzbBKG".toList.contains letter

/-- Read an escape that is no character and has no meaning in brackets. -/
def readCondition (letter : Char) : Reader Tree := do
  if letter = 'k' then
    requireText "<"
    readNameReference ">"
  else if letter = 'K' then
    pure .newStart
  else if letter = 'G' then
    pure .searchStart
  else
    pure (.written ['\\', letter] 0 (← get).modes.ignoreCase)

/-- Read an escape behind its backslash. -/
def readEscape (inBrackets : Bool) : Reader Tree := do
  match ← remaining with
  | [] => failure
  | letter :: rest =>
      if letter.isDigit then
        readNumberReference
      else
        continueWith rest
        if !inBrackets ∧ isCondition letter then
          readCondition letter
        else if letter = 'd' ∨ letter = 'D' ∨ letter = 's' ∨ letter = 'S' ∨
            letter = 'w' ∨ letter = 'W' then
          pure (.written ['\\', letter] 1 (← get).modes.ignoreCase)
        else if letter = 'h' then
          pure (.written "[0-9A-Fa-f]".toList 1 false)
        else if letter = 'H' then
          pure (.written "[^0-9A-Fa-f]".toList 1 false)
        else if letter = 'x' then
          readHex 2
        else if letter = 'u' then
          readHex 4
        else if letter = 'U' then
          readHex 8
        else if (letter = 'p' ∨ letter = 'P') ∧ !rest.isEmpty then
          readProperty letter
        else
          match letterEscape? letter with
          | some character => pure (.literal character false)
          | none =>
              if letter.isAlpha ∨ 0x80 ≤ letter.toNat then
                failure
              else
                pure (.literal letter false)

/-- Read an escape outside of brackets, and note the group that it refers to. -/
def readOuterEscape : Reader Tree := do
  let part ← readEscape false
  match part with
  | .reference group =>
      modify fun state => { state with referred := group :: state.referred }
      pure part
  | _ => pure part

/-- Read a set up to the closing bracket, of which some have been opened. -/
def readBracketsFrom
    (state : State)
    (depth : Nat)
    (written : List Char) :
    Option (List Char × State) :=
  match state.rest with
  | [] => none
  | '\\' :: rest =>
      match (readEscape true).run { state with rest := rest } with
      | none => none
      | some (part, next) =>
          let text? : Option (List Char) :=
            match part with
            | .literal character _ =>
                some (if Expression.isSpecial character then
                  ['\\', character]
                else
                  [character])
            | .written text _ _ => some text
            | _ => none
          match text? with
          | none => none
          | some text =>
              if _ : next.rest.length < state.rest.length then
                readBracketsFrom next depth (written ++ text)
              else
                none
  | '[' :: rest =>
      if _ : rest.length < state.rest.length then
        readBracketsFrom { state with rest := rest } (depth + 1)
          (written ++ ['['])
      else
        none
  | ']' :: rest =>
      match depth with
      | 0 => some (written ++ [']'], { state with rest := rest })
      | fewer + 1 =>
          if _ : rest.length < state.rest.length then
            readBracketsFrom { state with rest := rest } fewer
              (written ++ [']'])
          else
            none
  | character :: rest =>
      if _ : rest.length < state.rest.length then
        readBracketsFrom { state with rest := rest } depth
          (written ++ [character])
      else
        none
termination_by state.rest.length

/--
Read a set behind its opening bracket. A closing bracket at its front stands for
itself.
-/
def readBrackets : Reader Tree := do
  let negation := if ← passText "^" then ['^'] else []
  let closing := if ← passText "]" then [']'] else []
  let text ← fun state =>
      readBracketsFrom state 0 (['['] ++ negation ++ closing)
  pure (.written text 1 (← get).modes.ignoreCase)

/-- Read a count of rounds; with no lower number it is zero. -/
def readLeast : Reader Nat := do
  match ← remaining with
  | ',' :: _ => pure 0
  | _ =>
      match ← readDecimal? with
      | some least => pure least
      | none => failure

/-- The bound that a number of rounds is; the greatest number bounds nothing. -/
def bound? (rounds : Nat) : Option Nat :=
  if rounds = greatestNumber then none else some rounds

/-- Read counts of rounds in braces. -/
def readCounts : Reader (Nat × Option Nat) := do
  requireText "\x7b"
  passFiller
  let least ← readLeast
  passFiller
  let most ←
    if ← passText "," then do
      passFiller
      readDecimal?
    else
      pure (some least)
  passFiller
  requireText "\x7d"
  pure (least, most.bind bound?)

/-- Read what says how often a part is repeated, if something does. -/
def readRounds? : Reader (Option (Nat × Option Nat)) := do
  match ← remaining with
  | '?' :: rest =>
      continueWith rest
      pure (some (0, some 1))
  | '*' :: rest =>
      continueWith rest
      pure (some (0, none))
  | '+' :: rest =>
      continueWith rest
      pure (some (1, none))
  | '\x7b' :: _ =>
      match readCounts.run (← get) with
      | some (counts, next) =>
          set next
          pure (some counts)
      | none => pure none
  | _ => pure none

/-- The letters of switches. -/
def setMode
    (letter : Char)
    (turnsOn : Bool)
    (modes : Modes) : Option Modes :=
  match letter with
  | 'i' => some { modes with ignoreCase := turnsOn }
  | 'm' => some { modes with multiLine := turnsOn }
  | 's' => some { modes with dotMatchesAll := turnsOn }
  | 'U' => some { modes with swapGreed := turnsOn }
  | 'x' => some { modes with ignoreSpace := turnsOn }
  | 'u' => if turnsOn then some modes else none
  | _ => none

/--
Set switches up to a colon or a closing parenthesis, and say which it was. There
must be something behind a negation, and in front of a parenthesis; a blank or a
comment that is passed will do. The number of characters when the switches began
tells how many have been passed.
-/
def readModesFrom
    (length : Nat)
    (state : State)
    (turnsOn : Bool) :
    Option (Char × State) :=
  match behindFiller state.modes.ignoreSpace .none state.rest with
  | none => none
  | some [] => none
  | some (letter :: rest) =>
      let next := { state with rest := rest }
      let passed := length - (letter :: rest).length
      let isBareNegation := !turnsOn ∧ passed = 1
      if letter = ')' then
        if passed = 0 ∨ isBareNegation then none else some (letter, next)
      else if letter = ':' then
        if isBareNegation then none else some (letter, next)
      else if _ : rest.length < state.rest.length then
        if letter = '-' then
          if turnsOn then readModesFrom length next false else none
        else
          match setMode letter turnsOn state.modes with
          | none => none
          | some modes =>
              readModesFrom length { next with modes := modes } turnsOn
      else
        none
termination_by state.rest.length

/-- Close a group. -/
def closeGroup : Reader Unit := do
  passFiller
  requireText ")"

/-- Open a group with a number. -/
def openGroup : Reader Nat := do
  modify fun state => { state with groups := state.groups + 1 }
  pure (← get).groups

/-- Open a group with a name. -/
def openNamedGroup : Reader Nat := do
  let index ← openGroup
  let name ← readName ">"
  modify fun state => { state with names := (name, index) :: state.names }
  pure index

/-- The first part and the others of a conditional's branches. -/
def branchesOf : Tree → Tree × Tree
  | .alternation [yes, no] => (yes, no)
  | .alternation (yes :: others) => (yes, .alternation others)
  | tree => (tree, .empty)

/-- Read a conditional behind its opening parenthesis. -/
def readConditional (inner : Reader Tree) : Reader Tree := do
  let condition ←
    match ← remaining with
    | [] => failure
    | character :: rest =>
        if character.isDigit then
          readNumberReference
        else if character = '\'' then do
          continueWith rest
          readNameReference "'"
        else if character = '<' then do
          continueWith rest
          readNameReference ">"
        else
          inner
  closeGroup
  let before := (← remaining).length
  let content ← inner
  let condition : Tree :=
    match condition with
    | .reference group => .matched group
    | other => other
  if (← remaining).length = before then
    closeGroup
    match condition with
    | .matched _ => pure condition
    | _ => failure
  else
    closeGroup
    let (yes, no) := branchesOf content
    if yes.isEmpty ∧ no.isEmpty then
      pure condition
    else
      pure (.conditional condition yes no)

/-- Read switches for what follows, or a group with switches of its own. -/
def readModes (inner : Reader Tree) : Reader Tree := do
  let outer := (← get).modes
  let closing ← fun state => readModesFrom state.rest.length state true
  if closing = ')' then
    pure .empty
  else
    let body ← inner
    requireText ")"
    modify fun state => { state with modes := outer }
    pure body

/-- Read the body of a group and its end. -/
def readBody
    (wrap : Tree → Tree)
    (inner : Reader Tree) : Reader Tree := do
  let body ← inner
  closeGroup
  pure (wrap body)

/-- Read a group behind its opening parenthesis. -/
def readGroup (inner : Reader Tree) : Reader Tree := do
  passFiller
  if ← passText "?=" then
    readBody (.lookAround .ahead) inner
  else if ← passText "?!" then
    readBody (.lookAround .notAhead) inner
  else if ← passText "?<=" then
    readBody (.lookAround .behind) inner
  else if ← passText "?<!" then
    readBody (.lookAround .notBehind) inner
  else if ← passText "?<" then
    let index ← openNamedGroup
    readBody (.group index) inner
  else if ← passText "?P<" then
    let index ← openNamedGroup
    readBody (.group index) inner
  else if ← passText "?P=" then
    readNameReference ")"
  else if ← passText "?>" then
    readBody .atomic inner
  else if ← passText "?(" then
    readConditional inner
  else if ← passText "?" then
    readModes inner
  else
    let index ← openGroup
    readBody (.group index) inner

/-- Read a part that may be repeated. -/
def readAtom (inner : Reader Tree) : Reader Tree := do
  passFiller
  match ← remaining with
  | [] => pure .empty
  | character :: rest =>
      let modes := (← get).modes
      match character with
      | '.' =>
          continueWith rest
          pure (.any modes.dotMatchesAll)
      | '^' =>
          continueWith rest
          pure (if modes.multiLine then .lineStart else .textStart)
      | '$' =>
          continueWith rest
          pure (if modes.multiLine then .lineEnd else .textEnd)
      | '(' =>
          continueWith rest
          readGroup inner
      | '\\' =>
          continueWith rest
          readOuterEscape
      | '[' =>
          continueWith rest
          readBrackets
      | character =>
          if "+*?|)".toList.contains character then
            pure .empty
          else
            continueWith rest
            pure (.literal character modes.ignoreCase)

/-- Read a part and how often it is repeated. -/
def readPiece (inner : Reader Tree) : Reader Tree := do
  let body ← readAtom inner
  passFiller
  match ← readRounds? with
  | none => pure body
  | some (least, most) =>
      if !body.isRepeatable then
        failure
      else
        passFiller
        let lazy ← passText "?"
        let greedy := (!lazy) != (← get).modes.swapGreed
        let repeated := Tree.repetition body least most greedy
        if ← passText "+" then pure (.atomic repeated) else pure repeated

/-- Read the parts of a branch behind those read before. -/
def readBranchFrom
    (inner : Reader Tree)
    (earlier : List Tree)
    (state : State) :
    Option (Tree × State) :=
  if state.rest.isEmpty then
    some (.ofParts earlier, state)
  else
    match (readPiece inner).run state with
    | none => none
    | some (part, next) =>
        if _ : next.rest.length < state.rest.length then
          readBranchFrom inner
            (if part.isEmpty then earlier else earlier ++ [part]) next
        else
          some (.ofParts earlier, next)
termination_by state.rest.length

/-- Read the branches behind those read before. -/
def readBranchesFrom
    (inner : Reader Tree)
    (earlier : List Tree)
    (state : State) :
    Option (List Tree × State) :=
  match readBranchFrom inner [] state with
  | none => none
  | some (branch, next) =>
      match behindFiller next.modes.ignoreSpace .none next.rest with
      | none => none
      | some ('|' :: rest) =>
          if _ : rest.length < state.rest.length then
            readBranchesFrom inner (earlier ++ [branch])
              { next with rest := rest }
          else
            none
      | some rest => some (earlier ++ [branch], { next with rest := rest })
termination_by state.rest.length

/--
Read an expression inside at most a number of groups. Where one branch stands
alone, groups must not be both named and referred to by number.
-/
def readWithin : Nat → Reader Tree
  | 0 => failure
  | levels + 1 => do
      let branches ← fun state => readBranchesFrom (readWithin levels) [] state
      match branches with
      | [branch] =>
          let state ← get
          if state.usesNumbers ∧ !state.names.isEmpty then
            failure
          else
            pure branch
      | branches => pure (.alternation branches)

/-- How many groups may stand inside each other. -/
def levelLimit : Nat := 63

/-- An extended expression, and the groups that its escapes refer to. -/
structure Expression where
  tree : Tree
  referred : List Nat
  groups : Nat

/-- The extended expression that a text writes. -/
def read? (text : List Char) : Option Expression :=
  let start : State :=
    { rest := text
      modes := ⟨false, false, false, false, false⟩
      groups := 0
      names := []
      referred := []
      usesNumbers := false
      bound := (String.ofList text).utf8ByteSize / 2 }
  match (readWithin (levelLimit + 1)).run start with
  | some (tree, final) =>
      if final.rest.isEmpty then
        some
          { tree := tree, referred := final.referred, groups := final.groups }
      else
        none
  | none => none

end Eisen.Pattern.Extended
