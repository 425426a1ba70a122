import Eisen.Schema.Basic

namespace Eisen.Description

/-!
# The schema of descriptions

What a description has to look like where no other schema is given. Numerals,
rule names, rules and calls are definitions of the schema, to which its other
parts refer.
-/

/-- A schema with the label that names it in messages. -/
structure LabelledSchema where
  label : String
  document : Schema.Document

/-- A text. -/
def textSchema : Schema :=
  .keywords [.type [.string]]

/-- Everything but the blanks of patterns. -/
def nonSpace : CharacterSet where
  ranges :=
    [(0x0, 0x8), (0xE, 0x1F), (0x21, 0x9F), (0xA1, 0x2002), (0x2004, 0x2028),
      (0x202A, 0xFEFE), (0xFF00, Text.greatestCode)]

/-- The pattern of a text that is not blank. -/
def inkPattern : Schema.TextPattern where
  source := "\\S"
  pattern := .regular (.one nonSpace)

/-- The letters of rule names. -/
def nameLetters : CharacterSet where
  ranges := [('A'.toNat, 'Z'.toNat), ('a'.toNat, 'z'.toNat)]

/-- The pattern of a rule name. -/
def namePattern : Schema.TextPattern where
  source := "^[A-Za-z][A-Za-z0-9_]*$"
  pattern :=
    .regular (.inOrder
      [.look .textStart, .one nameLetters, .many (.one .asciiWord),
          .look .textEnd])

/-- The pattern of the name of a basic shape. -/
def basicShape : Pattern.Regular :=
  .oneOf [.literal "box", .literal "grid", .literal "sphere", .literal "line"]

/-- The characters behind the two colons of a shape. -/
def suffixCharacters : CharacterSet where
  ranges :=
    [('0'.toNat, ':'.toNat), ('A'.toNat, 'Z'.toNat), ('_'.toNat, '_'.toNat),
      ('a'.toNat, 'z'.toNat)]

/-- The pattern of a shape. -/
def shapePattern : Schema.TextPattern where
  source := "^(box|grid|sphere|line)(::[A-Za-z0-9_:]+)?$"
  pattern :=
    .regular (.inOrder
      [.look .textStart, .group 1 basicShape,
        .nullable (.group 2
          (.sequence (.literal "::") (.some (.one suffixCharacters)))),
        .look .textEnd])

/-- A number, or a text that is not blank. -/
def numeralSchema : Schema :=
  .keywords
    [.oneOf
      [.keywords [.type [.number]],
        .keywords [.pattern inkPattern, .type [.string]]]]

/-- A rule name. -/
def nameSchema : Schema :=
  .keywords [.pattern namePattern, .type [.string]]

/-- A shape. -/
def shapeSchema : Schema :=
  .keywords [.pattern shapePattern, .type [.string]]

/-- A reference to a definition of the schema. -/
def definition (name : String) : Schema :=
  .reference ("#/definitions/" ++ name)

/-- A call of a rule or of a shape. -/
def callSchema : Schema :=
  .keywords
    [.closedProperties
      [("count", definition "numeric"),
        ("rule", definition "rule_name"),
        ("shape", shapeSchema),
        ("transforms", textSchema)],
      .oneOf [.keywords [.required ["rule"]], .keywords [.required ["shape"]]],
      .type [.object]]

/-- A rule. -/
def ruleSchema : Schema :=
  .keywords
    [.closedProperties
      [("calls", .keywords [.items (definition "call"), .type [.array]]),
        ("max_depth", definition "numeric"),
        ("name", definition "rule_name"),
        ("successor", definition "rule_name"),
        ("weight", definition "numeric")],
      .required ["name"],
      .type [.object]]

/-- A whole description. -/
def descriptionSchema : Schema :=
  .keywords
    [.closedProperties
      [("$schema", textSchema),
        ("max_depth", definition "numeric"),
        ("rules",
          .keywords [.items (definition "rule"), .minItems 1, .type [.array]]),
        ("source", textSchema),
        ("title", textSchema)],
      .required ["rules"],
      .type [.object]]

/-- The schema of descriptions with its definitions. -/
def descriptionDocument : Schema.Document where
  root := descriptionSchema
  targets :=
    [("#/definitions/numeric", .ok numeralSchema),
      ("#/definitions/rule_name", .ok nameSchema),
      ("#/definitions/call", .ok callSchema),
      ("#/definitions/rule", .ok ruleSchema)]

/-- The schema of descriptions. -/
def LabelledSchema.embedded : LabelledSchema where
  label := "embedded schema/example_description.schema.json"
  document := descriptionDocument

end Eisen.Description
