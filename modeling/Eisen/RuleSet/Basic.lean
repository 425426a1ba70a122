import Eisen.Numeral
import Eisen.Script.Tree

namespace Eisen

/-!
# Rule sets

A rule set is the flat form of a script: every call has at most one loop, so a
call carries its transformations as text and at most one count.
-/

/-- A call with the transformations and count of its loop. -/
structure Call where
  target : Target
  transforms : String
  count : Option Numeral
  deriving Repr, DecidableEq

/-- A rule; rules of one name are variants of each other. -/
structure Rule where
  name : String
  weight : Option Numeral
  maxDepth : Option Numeral
  successor : Option String
  calls : List Call
  deriving Repr, DecidableEq

/-- A complete rule set. -/
structure RuleSet where
  maxDepth : Numeral
  rules : List Rule
  deriving Repr, DecidableEq

/-- Both numerals are absent, or both are present and agree. -/
def Numeral.optionAgrees : Option Numeral → Option Numeral → Bool
  | none, none => true
  | some left, some right => left.agrees right
  | _, _ => false

/-- Two lists agree when they have the same length and agree item by item. -/
def listAgrees
    {α : Type}
    (agrees : α → α → Bool) :
    List α → List α → Bool
  | [], [] => true
  | left :: lefts, right :: rights =>
      agrees left right && listAgrees agrees lefts rights
  | _, _ => false

/-- Calls agree when they differ at most in the spelling of a number. -/
def Call.agrees (left right : Call) : Bool :=
  left.target == right.target && left.transforms == right.transforms &&
    Numeral.optionAgrees left.count right.count

/-- Rules agree when they differ at most in the spelling of numbers. -/
def Rule.agrees (left right : Rule) : Bool :=
  left.name == right.name && Numeral.optionAgrees left.weight right.weight &&
    Numeral.optionAgrees left.maxDepth right.maxDepth &&
    left.successor == right.successor &&
    listAgrees Call.agrees left.calls right.calls

namespace RuleSet

/-- The depth limit of a script that sets none. -/
def defaultMaxDepth : Numeral where
  text := "1000"

/-- The name of the rule that holds the entry calls. -/
def entryName : String := "entry"

/-- Rule sets agree when they differ at most in the spelling of numbers. -/
def agrees (left right : RuleSet) : Bool :=
  left.maxDepth.agrees right.maxDepth &&
    listAgrees Rule.agrees left.rules right.rules

/-- The rules of a given name, in the order of their definition. -/
def variants
    (ruleSet : RuleSet)
    (name : String) : List Rule :=
  ruleSet.rules.filter fun rule => rule.name == name

/-- The names of the rules, in the order of their definition. -/
def names (ruleSet : RuleSet) : List String :=
  ruleSet.rules.map Rule.name

end RuleSet

end Eisen
