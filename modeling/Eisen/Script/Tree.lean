import Eisen.Text.Ascii

namespace Eisen

/-!
# Scripts

A script sets a global depth limit, makes entry calls and defines rules. A call
names a rule or a shape and may stand behind a chain of loops. Numbers stay as
they are written, since they may be arithmetic expressions.
-/

/-- The geometric transformations: moves, turns and scaling. -/
inductive TransformKind where
  | moveX
  | moveY
  | moveZ
  | turnX
  | turnY
  | turnZ
  | scale
  deriving Repr, DecidableEq

namespace TransformKind

/-- The keyword of a transformation in a script. -/
def keyword : TransformKind → String
  | .moveX => "x"
  | .moveY => "y"
  | .moveZ => "z"
  | .turnX => "rx"
  | .turnY => "ry"
  | .turnZ => "rz"
  | .scale => "s"

/-- All transformations. -/
def all : List TransformKind :=
  [.moveX, .moveY, .moveZ, .turnX, .turnY, .turnZ, .scale]

/-- The transformation with a given keyword. -/
def ofKeyword? (word : String) : Option TransformKind :=
  all.find? fun kind => kind.keyword == word

end TransformKind

/-- A transformation with its operands. -/
structure Transform where
  kind : TransformKind
  values : List String
  deriving Repr, DecidableEq

/-- A block of transformations, repeated if it has a count. -/
structure Loop where
  count : Option String
  transforms : List Transform
  deriving Repr, DecidableEq

/-- What a call places: a rule's body or a shape. -/
inductive Target where
  | rule (name : String)
  | shape (name : String)
  deriving Repr, DecidableEq

/-- The name of what a call places. -/
def Target.name : Target → String
  | .rule name => name
  | .shape name => name

/-- A call behind its loops, outermost first, with the line it starts on. -/
structure CallSite where
  loops : List Loop
  target : Target
  line : Nat
  deriving Repr, DecidableEq

/-- A rule definition; a name defined twice has two variants. -/
structure RuleDefinition where
  name : String
  weight : Option String
  maxDepth : Option String
  successor : Option String
  body : List CallSite
  line : Nat
  deriving Repr, DecidableEq

/-- A script: global depth limit, entry calls, rule definitions. -/
structure Script where
  maxDepth : Option String
  entry : List CallSite
  rules : List RuleDefinition
  deriving Repr, DecidableEq

namespace Script

/-- The base names of the shapes. -/
def shapes : List String :=
  ["box", "grid", "sphere", "line"]

/-- Split a word in front of its first `::`. -/
def splitSuffix : List Char → List Char × List Char
  | [] => ([], [])
  | ':' :: ':' :: rest => ([], ':' :: ':' :: rest)
  | character :: rest =>
      let (base, suffix) := splitSuffix rest
      (character :: base, suffix)

/--
The canonical form of a shape: its base in lower case, its `::` suffix as
written. A suffix with nothing behind the colons makes the word no shape.
-/
def canonicalShape? (word : String) : Option String :=
  let (base, suffix) := splitSuffix word.toList
  let base := base.map Char.toLower
  if suffix.length != 2 && shapes.contains (String.ofList base) then
    some (String.ofList (base ++ suffix))
  else
    none

/--
A rule name: a letter, then name characters, and no keyword of the top level.
-/
def isRuleName (word : String) : Bool :=
  match word.toList with
  | [] => false
  | first :: rest =>
      first.isAlpha && rest.all Text.isNameCharacter &&
        !Text.sameLetters word "rule" && !Text.sameLetters word "set"

end Script

end Eisen
