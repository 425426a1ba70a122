import Eisen.Catalog.Basic
import Eisen.Description.Files
import Eisen.RuleSet.Comparison
import Eisen.RuleSet.Unrolling

namespace Eisen

/-!
# Validation of examples

An example is checked for both halves, then each half is read, and then the two
rule sets are compared. All findings are collected.
-/

/-- The findings about an example. -/
structure Validation where
  subject : Example
  discrepancies : List Discrepancy
  deriving Repr, DecidableEq

namespace Validation

/-- Whether nothing was found. -/
def passed (validation : Validation) : Bool :=
  validation.discrepancies.isEmpty

/-- The rule set of a script from what reading its file gave. -/
def scriptRules
    (fileText : Except Storage.Fault String) :
    Except Discrepancy RuleSet :=
  match fileText with
  | .error fault =>
      .error (.malformedScript ("unable to read: " ++ fault.message))
  | .ok source =>
      match RuleSet.ofSource source with
      | .error fault => .error (.malformedScript fault.message)
      | .ok ruleSet => .ok ruleSet

/-- The rule set of a description from what reading its file gave. -/
def dataRules
    (schema : Description.LabelledSchema)
    (fileText : Except Storage.Fault String) :
    Except Discrepancy RuleSet :=
  match Description.ofFileText schema fileText with
  | .error fault => .error (.malformedData fault.message)
  | .ok description => .ok description.ruleSet

/-- The finding about a half that cannot be read. -/
def malformed
    (rules : Except Discrepancy RuleSet) : List Discrepancy :=
  match rules with
  | .error finding => [finding]
  | .ok _ => []

/-- The findings about the references of a half that can be read. -/
def references
    (side : Side)
    (rules : Except Discrepancy RuleSet) : List Discrepancy :=
  match rules with
  | .error _ => []
  | .ok ruleSet => ruleSet.undefinedReferences side

/-- The findings about two halves together. -/
def comparison
    (script data : Except Discrepancy RuleSet) : List Discrepancy :=
  match script, data with
  | .ok script, .ok data => script.differences data
  | _, _ => []

/-- The findings about a complete pair from what reading its files gave. -/
def pairFindings
    (schema : Description.LabelledSchema)
    (scriptText dataText : Except Storage.Fault String) : List Discrepancy :=
  let script := scriptRules scriptText
  let data := dataRules schema dataText
  malformed script ++ malformed data ++ references .script script ++
    references .data data ++ comparison script data

/-- The findings about a pair of which either half may be missing. -/
def findings
    (schema : Description.LabelledSchema)
    (scriptText dataText : Option (Except Storage.Fault String)) :
    List Discrepancy :=
  match scriptText, dataText with
  | some script, some data => pairFindings schema script data
  | some _, none => [.missingData]
  | none, some _ => [.missingScript]
  | none, none => []

/-- Validate an example whose files are in a file system. -/
def ofExample
    (fileSystem : FileSystem)
    (schema : Description.LabelledSchema)
    (pair : Example) : Validation where
  subject := pair
  discrepancies :=
    findings schema (pair.script.map fileSystem.readText)
      (pair.data.map fileSystem.readText)

end Validation

end Eisen
