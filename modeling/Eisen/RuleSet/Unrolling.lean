import Eisen.RuleSet.Basic
import Eisen.Script.Grammar

namespace Eisen

/-!
# Unrolling loop chains

A call behind several loops becomes a call with the first loop to a helper rule
that holds a call with the second loop, and so on to the call's own target.
Helper rules are numbered through the whole script and stand behind the rule
whose body needed them, outermost first.
-/

/-- The word for a transformation in a rule set. -/
def Transform.word (transform : Transform) : String :=
  match transform.kind with
  | .moveX => "tx"
  | .moveY => "ty"
  | .moveZ => "tz"
  | .turnX => "rx"
  | .turnY => "ry"
  | .turnZ => "rz"
  | .scale => if transform.values.length = 1 then "sa" else "s"

/-- The words of a transformation: its own and its operands. -/
def Transform.words (transform : Transform) : List String :=
  transform.word :: transform.values

/-- The text of a block of transformations. -/
def transformText (transforms : List Transform) : String :=
  " ".intercalate
    (transforms.map fun transform => " ".intercalate transform.words)

namespace RuleSet

/-- A number with at least two digits. -/
def twoDigits (number : Nat) : String :=
  if number < 10 then "0" ++ toString number else toString number

/-- The name of a helper rule on the way to a target. -/
def helperName
    (target : String)
    (number : Nat) : String :=
  target ++ "_" ++ twoDigits number

/-- A call inside one loop. -/
def looped
    (loop : Loop)
    (target : Target) : Call where
  target := target
  transforms := transformText loop.transforms
  count := loop.count.map Numeral.ofText

/-- What stands in front of a chain of loops: its first helper rule, if any. -/
def chainTarget
    (target : Target)
    (number : Nat) :
    List Loop → Target
  | [] => target
  | _ :: _ => .rule (helperName target.name number)

/-- The helper rules of a chain of loops, numbered from `number`. -/
def chainHelpers
    (target : Target)
    (number : Nat) :
    List Loop → List Rule
  | [] => []
  | loop :: rest =>
      { name := helperName target.name number
        weight := none
        maxDepth := none
        successor := none
        calls := [looped loop (chainTarget target (number + 1) rest)] } ::
      chainHelpers target (number + 1) rest

/-- How many helper rules a call needs. -/
def helperCount (site : CallSite) : Nat :=
  site.loops.length - 1

/-- The flat form of a call whose helper rules are numbered from `number`. -/
def unrollCall
    (number : Nat)
    (site : CallSite) : Call :=
  match site.loops with
  | [] => ⟨site.target, "", none⟩
  | first :: rest => looped first (chainTarget site.target number rest)

/-- The helper rules of a call, numbered from `number`. -/
def callHelpers
    (number : Nat)
    (site : CallSite) : List Rule :=
  chainHelpers site.target number (site.loops.drop 1)

/-- The calls of a body and its helper rules, numbered from `number`. -/
def unrollBody
    (number : Nat) :
    List CallSite → List Call × List Rule
  | [] => ([], [])
  | site :: rest =>
      let (calls, helpers) := unrollBody (number + helperCount site) rest
      (unrollCall number site :: calls, callHelpers number site ++ helpers)

/-- How many helper rules a body needs. -/
def bodyHelperCount : List CallSite → Nat
  | [] => 0
  | site :: rest => helperCount site + bodyHelperCount rest

/-- The rules of some definitions, helper rules numbered from `number`. -/
def unrollRules
    (number : Nat) :
    List RuleDefinition → List Rule
  | [] => []
  | definition :: rest =>
      let (calls, helpers) := unrollBody number definition.body
      { name := definition.name
        weight := definition.weight.map Numeral.ofText
        maxDepth := definition.maxDepth.map Numeral.ofText
        successor := definition.successor
        calls := calls } ::
      (helpers ++ unrollRules (number + bodyHelperCount definition.body) rest)

/-- The entry calls of a script as a definition. -/
def entryDefinition (script : Script) : RuleDefinition where
  name := entryName
  weight := none
  maxDepth := none
  successor := none
  body := script.entry
  line := 1

/-- The rule set of a script. -/
def ofScript (script : Script) : RuleSet where
  maxDepth := (script.maxDepth.map Numeral.ofText).getD defaultMaxDepth
  rules := unrollRules 0 (entryDefinition script :: script.rules)

/-- The rule set of a source text. -/
def ofSource (source : String) : Except Script.Fault RuleSet :=
  match Script.ofSource source with
  | .error fault => .error fault
  | .ok script => .ok (ofScript script)

end RuleSet

end Eisen
