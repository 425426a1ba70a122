import Eisen.Script.Token

namespace Eisen.Script

/-!
# Faults of a script

Every way in which source text can fail to be a script, and its message.
-/

/-- What the grammar asks for at some place. -/
inductive Expected where
  | settingName
  | maxDepthValue
  | weightValue
  | ruleName
  | successorName
  | openBrace
  | ruleEnd (rule : String)
  | starAfterCount
  | target
  | transformOrClose
  | valueFor (operator : String)
  | colourValue
  | blendStrength
  deriving Repr, DecidableEq

/-- The wording of an expectation. -/
def Expected.text : Expected → String
  | .settingName => "setting name"
  | .maxDepthValue => "max depth value"
  | .weightValue => "weight value"
  | .ruleName => "rule name"
  | .successorName => "successor rule name"
  | .openBrace => "'\x7b'"
  | .ruleEnd rule => "'\x7d' closing rule '" ++ rule ++ "'"
  | .starAfterCount => "'*' after loop count"
  | .target => "rule or shape name"
  | .transformOrClose => "transformation or '\x7d'"
  | .valueFor operator => "value for '" ++ operator ++ "'"
  | .colourValue => "colour value"
  | .blendStrength => "blend strength"

/-- The modifiers a rule may declare once. -/
inductive Modifier where
  | maxDepth
  | weight
  deriving Repr, DecidableEq

/-- The wording of a modifier. -/
def Modifier.text : Modifier → String
  | .maxDepth => "maxdepth"
  | .weight => "weight"

/-- The ways in which source text is no script. -/
inductive Fault where
  | unexpectedCharacter (place : Place) (found : Char)
  | unterminatedComment (place : Place)
  | preprocessor (line : Nat)
  | unexpected (place : Place) (expected : Expected) (found : Lexeme)
  | unexpectedEnd (expected : Expected)
  | unknownSetting (line : Nat) (key : String)
  | unknownTransform (place : Place) (name : String)
  | duplicateModifier (line : Nat) (rule : String) (modifier : Modifier)
  | emptyEntry
  deriving Repr, DecidableEq

/-- How a place is named in front of a message. -/
def Place.label (place : Place) : String :=
  "line " ++ toString place.line ++ ", column " ++ toString place.column ++ ": "

/-- How a line is named in front of a message. -/
def lineLabel (line : Nat) : String :=
  "line " ++ toString line ++ ": "

/-- The message of a fault. -/
def Fault.message : Fault → String
  | .unexpectedCharacter place found =>
      place.label ++ "unexpected character '" ++ String.ofList [found] ++ "'"
  | .unterminatedComment place =>
      place.label ++ "unterminated block comment"
  | .preprocessor line =>
      lineLabel line ++ "preprocessor directives (#define) are not supported"
  | .unexpected place expected found =>
      place.label ++ "expected " ++ expected.text ++ ", found " ++
        found.describe
  | .unexpectedEnd expected =>
      "unexpected end of script: expected " ++ expected.text
  | .unknownSetting line key =>
      lineLabel line ++ "unknown setting '" ++ key ++ "'"
  | .unknownTransform place name =>
      place.label ++ "unknown transformation '" ++ name ++ "'"
  | .duplicateModifier line rule modifier =>
      lineLabel line ++ "rule '" ++ rule ++ "' declares " ++ modifier.text ++
        " more than once"
  | .emptyEntry => "script has no entry calls"

end Eisen.Script
