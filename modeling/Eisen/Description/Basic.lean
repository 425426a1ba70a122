import Eisen.RuleSet.Decoding
import Eisen.RuleSet.Encoding

namespace Eisen

/-!
# Descriptions

A description is the data half of an example: a rule set with a title and the
place where the example comes from.
-/

/-- A rule set with what is told about it. -/
structure Description where
  title : Option String
  source : Option String
  ruleSet : RuleSet
  deriving Repr, DecidableEq

namespace Description

/-- The JSON value of a description. -/
def toJson (description : Description) : Json :=
  .object
    (optionalMember "title" .text description.title ++
      optionalMember "source" .text description.source ++
        description.ruleSet.members)

/-- The text of a description's file. -/
def fileText (description : Description) : String :=
  description.toJson.indented ++ "\n"

open Decoding in
/-- Read a description; the texts about it come before the rule set. -/
def ofJson : Json → Except Fault Description
  | .object members => do
      let source ← memberOr none (optional text) "source" members
      let title ← memberOr none (optional text) "title" members
      let ruleSet ← RuleSet.ofMembers .description members
      return { title, source, ruleSet }
  | value => .error (.wrongKind value .description)

end Description

end Eisen
