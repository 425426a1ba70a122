import Eisen.Discrepancy
import Eisen.RuleSet.Basic
import Eisen.Text.Order

namespace Eisen

/-!
# Comparing rule sets

References that a rule set leaves undefined, and the differences between the
rule set of a script and the one of its data file. Rules are matched by name;
the variants of a name are matched in the order of their definition.
-/

namespace RuleSet

/-- Whether some rule has the given name. -/
def defines
    (ruleSet : RuleSet)
    (name : String) : Bool :=
  ruleSet.names.contains name

/-- The finding about one call of a rule, if its target is undefined. -/
def undefinedTarget?
    (ruleSet : RuleSet)
    (side : Side)
    (caller : String)
    (call : Call) :
    Option Discrepancy :=
  match call.target with
  | .shape _ => none
  | .rule name =>
      if ruleSet.defines name then
        none
      else
        some (.undefinedRule side caller name)

/-- The findings about one rule: its calls in order, then its successor. -/
def undefinedIn
    (ruleSet : RuleSet)
    (side : Side)
    (rule : Rule) : List Discrepancy :=
  rule.calls.filterMap (ruleSet.undefinedTarget? side rule.name) ++
    match rule.successor with
    | none => []
    | some name =>
        if ruleSet.defines name then
          []
        else
          [.undefinedSuccessor side rule.name name]

/-- Whether a finding is about the target of a call. -/
def isUndefinedRule : Discrepancy → Bool
  | .undefinedRule _ _ _ => true
  | _ => false

/-- Drop the repetitions of findings about call targets, seen ones included. -/
def dropRepeated
    (seen : List Discrepancy) :
    List Discrepancy → List Discrepancy
  | [] => []
  | finding :: rest =>
      if isUndefinedRule finding && seen.contains finding then
        dropRepeated seen rest
      else
        finding :: dropRepeated (finding :: seen) rest

/--
The calls and successors that name no rule of the set. A missing target is
reported once per name of the calling rule.
-/
def undefinedReferences
    (ruleSet : RuleSet)
    (side : Side) : List Discrepancy :=
  dropRepeated [] (ruleSet.rules.flatMap (ruleSet.undefinedIn side))

/-- The names of the rules, each once, in order. -/
def sortedNames (ruleSet : RuleSet) : List String :=
  Text.sortBy id ruleSet.names.eraseDups

end RuleSet

/-- The transformations of a call with single blanks between its words. -/
def Call.plainTransforms (call : Call) : String :=
  " ".intercalate (Text.words call.transforms)

/-- The text by which calls are compared. -/
def Call.signature (call : Call) : String :=
  let target :=
    match call.target with
    | .rule name => "rule " ++ name
    | .shape name => "shape " ++ name
  let count :=
    match call.count with
    | none => ""
    | some count => " x" ++ count.canonical
  let transforms :=
    if call.plainTransforms.isEmpty then
      ""
    else
      " \x7b" ++ call.plainTransforms ++ "\x7d"
  target ++ count ++ transforms

namespace Rule

/-- The difference in one parameter; an absent value is written as a dash. -/
def parameterDifference
    (rule : String)
    (variant : Nat)
    (parameter : Parameter)
    (script data : Option String) : List Discrepancy :=
  if script = data then
    []
  else
    [.parameterMismatch rule variant parameter (script.getD "-")
      (data.getD "-")]

/-- The differences between calls that stand at the same index. -/
def callDifferences
    (rule : String)
    (variant index : Nat) :
    List Call → List Call → List Discrepancy
  | script :: scripts, data :: datas =>
      let later := callDifferences rule variant (index + 1) scripts datas
      if script.signature = data.signature then
        later
      else
        .callMismatch rule variant index script.signature
          data.signature :: later
  | _, _ => []

/-- The differences between two variants of a rule. -/
def differences
    (variant : Nat)
    (script data : Rule) : List Discrepancy :=
  parameterDifference script.name variant .weight
      (script.weight.map Numeral.canonical)
      (data.weight.map Numeral.canonical) ++
    parameterDifference script.name variant .maxDepth
      (script.maxDepth.map Numeral.canonical)
      (data.maxDepth.map Numeral.canonical) ++
    parameterDifference script.name variant .successor script.successor
      data.successor ++
    parameterDifference script.name variant .callCount
      (some (toString script.calls.length))
      (some (toString data.calls.length)) ++
    callDifferences script.name variant 1 script.calls data.calls

/-- The differences between variants that stand at the same index. -/
def variantDifferences
    (variant : Nat) :
    List Rule → List Rule → List Discrepancy
  | script :: scripts, data :: datas =>
      differences variant script data ++
        variantDifferences (variant + 1) scripts datas
  | _, _ => []

end Rule

namespace RuleSet

/-- The differences between the rules of one name. -/
def nameDifferences
    (script data : RuleSet)
    (name : String) : List Discrepancy :=
  let scripts := script.variants name
  let datas := data.variants name
  if scripts.length = datas.length then
    Rule.variantDifferences 1 scripts datas
  else
    [.variantCountMismatch name scripts.length datas.length]

/-- The differences between the rule set of a script and the one of its data. -/
def differences (script data : RuleSet) : List Discrepancy :=
  (if script.maxDepth.agrees data.maxDepth then
      []
    else
      [.maxDepthMismatch script.maxDepth.canonical data.maxDepth.canonical]) ++
    (script.sortedNames.filter fun name => !data.defines name).map
      .ruleOnlyInScript ++
    (data.sortedNames.filter fun name => !script.defines name).map
      .ruleOnlyInData ++
    (script.sortedNames.filter data.defines).flatMap
      (nameDifferences script data)

end RuleSet

end Eisen
