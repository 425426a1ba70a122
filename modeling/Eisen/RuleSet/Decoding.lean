import Eisen.Json.Writer
import Eisen.RuleSet.Basic
import Eisen.Text.Quoted

namespace Eisen

/-!
# Rule sets from JSON

Reading a JSON value as a rule set. Members are read in the order of their
names, a missing member is noticed after those that are there, and unknown
members are passed over. A rule may also be the list of its fields, of which
the last ones may be left out.
-/

namespace Decoding

/-- What a value is read as. -/
inductive Wanted where
  | text
  | list
  | numeral
  | call
  | rule
  | ruleSet
  | description
  deriving Repr, DecidableEq

/-- The wording of what is wanted. -/
def Wanted.message : Wanted → String
  | .text => "a string"
  | .list => "a sequence"
  | .numeral => "a number or numeric expression string"
  | .call => "struct Call"
  | .rule => "struct Rule"
  | .ruleSet => "struct RuleSet"
  | .description => "struct ExampleDescription"

/-- The wording of a value that is not what is wanted. -/
def found : Json → String
  | .null => "null"
  | .bool value => if value then "boolean `true`" else "boolean `false`"
  | .integer value => "integer `" ++ toString value ++ "`"
  | .real value => "floating point `" ++ Json.realText value ++ "`"
  | .text value => "string " ++ Text.quoted value
  | .array _ => "sequence"
  | .object _ => "map"

/-- Where a rule set stands: in a description, or by itself. -/
inductive Container where
  | description
  | ruleSet
  deriving Repr, DecidableEq

/-- Why a value cannot be read. -/
inductive Fault where
  | wrongKind (value : Json) (wanted : Wanted)
  | blankNumeral (text : String)
  | missingMember (name : String)
  | noTarget
  /-- A list of fields ends before a field that has no default. -/
  | shortList (length : Nat) (wanted : Wanted) (fields : Nat)
  /-- A list has items after its last field. -/
  | longList (container : Container) (length fields : Nat)

/-- The wording of a fault. -/
def Fault.message : Fault → String
  | .wrongKind value wanted =>
      "invalid type: " ++ found value ++ ", expected " ++ wanted.message
  | .blankNumeral text =>
      "invalid value: " ++ found (.text text) ++ ", expected " ++
        Wanted.numeral.message
  | .missingMember name => "missing field `" ++ name ++ "`"
  | .noTarget => "no variant of enum CallTarget found in flattened data"
  | .shortList length wanted fields =>
      "invalid length " ++ toString length ++ ", expected " ++
        wanted.message ++ " with " ++
        toString fields ++ " elements"
  | .longList .description length fields =>
      "invalid length " ++ toString length ++ ", expected " ++
        toString fields ++
        " elements in sequence"
  | .longList .ruleSet length _ =>
      "invalid length " ++ toString length ++
        ", expected fewer elements in array"

/-- Read a text. -/
def text : Json → Except Fault String
  | .text value => .ok value
  | value => .error (.wrongKind value .text)

/-- Read every item of a list. -/
def list
    {α : Type}
    (item : Json → Except Fault α) :
    Json → Except Fault (List α)
  | .array items => items.mapM item
  | value => .error (.wrongKind value .list)

/-- Read an optional field, for which null stands for no value. -/
def optional
    {α : Type}
    (field : Json → Except Fault α) :
    Json → Except Fault (Option α)
  | .null => .ok none
  | value => (field value).map some

/-- Read a member, or take the default if it is missing. -/
def memberOr
    {α : Type}
    (default : α)
    (field : Json → Except Fault α)
    (name : String)
    (members : List (String × Json)) :
    Except Fault α :=
  match Json.member? name members with
  | some value => field value
  | none => .ok default

/-- Read an item of a list of fields, or take the default behind its end. -/
def itemOr
    {α : Type}
    (default : α)
    (field : Json → Except Fault α)
    (index : Nat)
    (items : List Json) :
    Except Fault α :=
  match items[index]? with
  | some value => field value
  | none => .ok default

end Decoding

open Decoding in
/-- Read a numeral; a text must not be blank. -/
def Numeral.ofJson : Json → Except Fault Numeral
  | .integer value => .ok ⟨toString value⟩
  | .real value => .ok ⟨numberText value⟩
  | .text value =>
      if (Text.trim value).isEmpty then
        .error (.blankNumeral value)
      else
        .ok (ofText value)
  | value => .error (.wrongKind value .numeral)

open Decoding in
/-- Read the target of a call, the first of the two kinds that is there. -/
def Target.ofMembers (members : List (String × Json)) : Except Fault Target :=
  match Json.member? "rule" members with
  | some value => (text value).map .rule
  | none =>
      match Json.member? "shape" members with
      | some value => (text value).map .shape
      | none => .error .noTarget

open Decoding in
/-- Read a call. -/
def Call.ofJson : Json → Except Fault Call
  | .object members => do
      let count ← memberOr none (optional Numeral.ofJson) "count" members
      let transforms ← memberOr "" text "transforms" members
      let target ← Target.ofMembers members
      return { target, transforms, count }
  | value => .error (.wrongKind value .call)

open Decoding in
/-- Read a rule. -/
def Rule.ofJson
    (container : Container) :
    Json → Except Fault Rule
  | .object members => do
      let calls ← memberOr [] (list Call.ofJson) "calls" members
      let maxDepth ← memberOr none (optional Numeral.ofJson) "max_depth" members
      let name ← memberOr none
          (fun value => (text value).map some) "name" members
      let successor ← memberOr none (optional text) "successor" members
      let weight ← memberOr none (optional Numeral.ofJson) "weight" members
      match name with
      | some name => return { name, weight, maxDepth, successor, calls }
      | none => .error (.missingMember "name")
  | .array [] => .error (.shortList 0 .rule 5)
  | .array (first :: rest) => do
      let name ← text first
      let weight ← itemOr none (optional Numeral.ofJson) 0 rest
      let maxDepth ← itemOr none (optional Numeral.ofJson) 1 rest
      let successor ← itemOr none (optional text) 2 rest
      let calls ← itemOr [] (list Call.ofJson) 3 rest
      if rest.length > 4 then
        .error (.longList container (rest.length + 1) 5)
      else
        return { name, weight, maxDepth, successor, calls }
  | value => .error (.wrongKind value .rule)

namespace RuleSet

open Decoding

/-- Read the members of a rule set. -/
def ofMembers
    (container : Container)
    (members : List (String × Json)) :
    Except Fault RuleSet := do
  let maxDepth ← memberOr defaultMaxDepth Numeral.ofJson "max_depth" members
  match Json.member? "rules" members with
  | none => .error (.missingMember "rules")
  | some value =>
      let rules ← list (Rule.ofJson container) value
      return { maxDepth, rules }

/-- Read a rule set that stands by itself; it may be the list of its fields. -/
def ofJson : Json → Except Fault RuleSet
  | .object members => ofMembers .ruleSet members
  | .array items => do
      let maxDepth ← itemOr defaultMaxDepth Numeral.ofJson 0 items
      match items[1]? with
      | none => .error (.shortList 1 .ruleSet 2)
      | some value =>
          let rules ← list (Rule.ofJson .ruleSet) value
          if items.length > 2 then
            .error (.longList .ruleSet items.length 2)
          else
            return { maxDepth, rules }
  | value => .error (.wrongKind value .ruleSet)

end RuleSet

end Eisen
