namespace Eisen

/-!
# Discrepancies

What can be wrong with a pair of a script and its data file, and the message of
each finding.
-/

/-- The half of a pair that a finding is about. -/
inductive Side where
  | script
  | data
  deriving Repr, DecidableEq

/-- The wording of a side. -/
def Side.text : Side → String
  | .script => "script"
  | .data => "data"

/-- The parameters of a rule that are compared. -/
inductive Parameter where
  | weight
  | maxDepth
  | successor
  | callCount
  deriving Repr, DecidableEq

/-- The wording of a parameter. -/
def Parameter.text : Parameter → String
  | .weight => "weight"
  | .maxDepth => "max_depth"
  | .successor => "successor"
  | .callCount => "call count"

/-- One finding about a pair. Variants and calls are numbered from one. -/
inductive Discrepancy where
  | missingData
  | missingScript
  | malformedScript (message : String)
  | malformedData (message : String)
  | undefinedRule (side : Side) (caller target : String)
  | undefinedSuccessor (side : Side) (rule successor : String)
  | maxDepthMismatch (script data : String)
  | ruleOnlyInScript (rule : String)
  | ruleOnlyInData (rule : String)
  | variantCountMismatch (rule : String) (script data : Nat)
  | parameterMismatch (rule : String) (variant : Nat) (parameter : Parameter)
      (script data : String)
  | callMismatch (rule : String) (variant index : Nat) (script data : String)
  deriving Repr, DecidableEq

/-- How a rule is named in front of a message. -/
def ruleLabel (rule : String) : String :=
  "rule '" ++ rule ++ "' "

/-- The message of a finding. -/
def Discrepancy.message : Discrepancy → String
  | .missingData => "script has no matching data file"
  | .missingScript => "data file has no matching script"
  | .malformedScript message => "malformed script: " ++ message
  | .malformedData message => "malformed data: " ++ message
  | .undefinedRule side caller target =>
      side.text ++ ": " ++ ruleLabel caller ++ "calls undefined rule '" ++
        target ++ "'"
  | .undefinedSuccessor side rule successor =>
      side.text ++ ": " ++ ruleLabel rule ++ "names undefined successor '" ++
        successor ++ "'"
  | .maxDepthMismatch script data =>
      "max_depth differs: script=" ++ script ++ " data=" ++ data
  | .ruleOnlyInScript rule => ruleLabel rule ++ "is only in the script"
  | .ruleOnlyInData rule => ruleLabel rule ++ "is only in the data"
  | .variantCountMismatch rule script data =>
      ruleLabel rule ++ "has " ++ toString script ++
        " definition(s) in the script but " ++ toString data ++ " in the data"
  | .parameterMismatch rule variant parameter script data =>
      ruleLabel rule ++ "#" ++ toString variant ++ " " ++ parameter.text ++
        " differs: script=" ++ script ++ " data=" ++ data
  | .callMismatch rule variant index script data =>
      ruleLabel rule ++ "#" ++ toString variant ++ " call " ++ toString index ++
        " differs: script=[" ++ script ++ "] data=[" ++ data ++ "]"

end Eisen
