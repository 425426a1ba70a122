import Eisen.Json.Writer
import Eisen.RuleSet.Basic

namespace Eisen

/-!
# Rule sets as JSON

The JSON value of a rule set. Optional fields without a value have no member,
and the members stand in the order of the fields.
-/

/--
A numeral is an integer where it is written as one of 64 bits, a real number
where it is a finite number, and else text.
-/
def Numeral.toJson (numeral : Numeral) : Json :=
  match numeral.integer? with
  | some value => .integer value
  | none =>
      match numeral.number? with
      | some number => .real number
      | none => .text numeral.text

/-- The member of an optional field. -/
def optionalMember
    {α : Type}
    (name : String)
    (encode : α → Json)
    (field : Option α) :
    List (String × Json) :=
  field.toList.map fun value => (name, encode value)

/-- The member that names a target. -/
def Target.member : Target → String × Json
  | .rule name => ("rule", .text name)
  | .shape name => ("shape", .text name)

/-- The JSON value of a call. -/
def Call.toJson (call : Call) : Json :=
  .object
    ([call.target.member, ("transforms", .text call.transforms)] ++
      optionalMember "count" Numeral.toJson call.count)

/-- The JSON value of a rule. -/
def Rule.toJson (rule : Rule) : Json :=
  .object
    ([("name", .text rule.name)] ++
      optionalMember "weight" Numeral.toJson rule.weight ++
      optionalMember "max_depth" Numeral.toJson rule.maxDepth ++
      optionalMember "successor" .text rule.successor ++
      [("calls", .array (rule.calls.map Call.toJson))])

/-- The members of a rule set. -/
def RuleSet.members (ruleSet : RuleSet) : List (String × Json) :=
  [("max_depth", ruleSet.maxDepth.toJson),
    ("rules", .array (ruleSet.rules.map Rule.toJson))]

end Eisen
