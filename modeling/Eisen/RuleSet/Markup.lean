import Eisen.RuleSet.Basic

namespace Eisen

/-!
# EisenXML

The markup of a rule set: one element per rule and per call, two blanks of
indentation per level, attributes in a fixed order, absent values left out.
-/

namespace Markup

/-- The text of a character inside an attribute value. -/
def escapeCharacter : Char → List Char
  | '&' => "&amp;".toList
  | '<' => "&lt;".toList
  | '>' => "&gt;".toList
  | '"' => "&quot;".toList
  | character => [character]

/-- The text of an attribute value. -/
def escape (value : String) : String :=
  String.ofList (value.toList.flatMap escapeCharacter)

/-- An attribute with a blank in front of it. -/
def attributeText (entry : String × String) : String :=
  " " ++ entry.1 ++ "=\"" ++ escape entry.2 ++ "\""

/-- The front of an element's tag: its name and attributes. -/
def tag
    (element : String)
    (attributes : List (String × String)) : String :=
  "<" ++ element ++ String.join (attributes.map attributeText)

/-- An attribute that is written if it has a value. -/
def optional
    (key : String) :
    Option String → List (String × String)
  | none => []
  | some value => [(key, value)]

end Markup

/-- The element of a call, on a line of its own. -/
def Call.markup (call : Call) : String :=
  let values :=
    ("transforms", call.transforms) ::
      Markup.optional "count" (call.count.map Numeral.text)
  let front :=
    match call.target with
    | .rule name => Markup.tag "call" (values ++ [("rule", name)])
    | .shape name => Markup.tag "instance" (values ++ [("shape", name)])
  "    " ++ front ++ "/>\n"

/-- The element of a rule with its calls. -/
def Rule.markup (rule : Rule) : String :=
  let front :=
    "  " ++ Markup.tag "rule"
      (("name", rule.name) ::
        (Markup.optional "weight" (rule.weight.map Numeral.text) ++
          Markup.optional "max_depth" (rule.maxDepth.map Numeral.text) ++
          Markup.optional "successor" rule.successor))
  if rule.calls.isEmpty then
    front ++ "/>\n"
  else
    front ++ ">\n" ++ String.join (rule.calls.map Call.markup) ++ "  </rule>\n"

/-- The EisenXML document of a rule set. -/
def RuleSet.markup (ruleSet : RuleSet) : String :=
  let front :=
    "<?xml version=\"1.0\" ?>\n" ++
      Markup.tag "rules" [("max_depth", ruleSet.maxDepth.text)]
  if ruleSet.rules.isEmpty then
    front ++ "/>\n"
  else
    front ++ ">\n" ++ String.join (ruleSet.rules.map Rule.markup) ++
      "</rules>\n"

end Eisen
