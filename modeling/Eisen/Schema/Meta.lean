import Eisen.Schema.Basic

namespace Eisen.Schema

/-!
# The schema of schemas

What a schema document has to look like, as a schema: the draft 7 meta-schema,
as far as it concerns the form of keywords.
-/

/-- A text. -/
def string : Schema :=
  .keywords [.type [.string]]

/-- A text with a form. -/
def formatted (form : Format) : Schema :=
  .keywords [.format form, .type [.string]]

/-- A truth value. -/
def boolean : Schema :=
  .keywords [.type [.boolean]]

/-- A number. -/
def number : Schema :=
  .keywords [.type [.number]]

/-- A list of anything. -/
def list : Schema :=
  .keywords [.type [.array]]

/-- A whole schema again. -/
def again : Schema :=
  .reference "#"

/-- An object whose members follow a schema. -/
def memberwise (schema : Schema) : Schema :=
  .keywords [.openProperties [] schema, .type [.object]]

/-- A list of at least one schema. -/
def schemaArray : Schema :=
  .keywords [.items again, .minItems 1, .type [.array]]

/-- A list of different texts. -/
def stringArray : Schema :=
  .keywords [.items string, .type [.array], .uniqueItems]

/-- A count. -/
def nonNegativeInteger : Schema :=
  .keywords [.minimum 0, .type [.integer]]

/-- The name of a type. -/
def simpleType : Schema :=
  .keywords [.enumeration (Kind.all.map Kind.name)]

/-- What each keyword of a schema has to look like. -/
def keywordForms : List (String × Schema) :=
  [("$comment", string),
    ("$id", formatted .reference),
    ("$ref", formatted .reference),
    ("$schema", formatted .address),
    ("additionalItems", again),
    ("additionalProperties", again),
    ("allOf", schemaArray),
    ("anyOf", schemaArray),
    ("const", .always),
    ("contains", again),
    ("contentEncoding", string),
    ("contentMediaType", string),
    ("default", .always),
    ("definitions", memberwise again),
    ("dependencies", memberwise (.keywords [.anyOf [again, stringArray]])),
    ("description", string),
    ("else", again),
    ("enum", list),
    ("examples", list),
    ("exclusiveMaximum", number),
    ("exclusiveMinimum", number),
    ("format", string),
    ("if", again),
    ("items", .keywords [.anyOf [again, schemaArray]]),
    ("maxItems", nonNegativeInteger),
    ("maxLength", nonNegativeInteger),
    ("maxProperties", nonNegativeInteger),
    ("maximum", number),
    ("minItems", nonNegativeInteger),
    ("minLength", nonNegativeInteger),
    ("minProperties", nonNegativeInteger),
    ("minimum", number),
    ("multipleOf", number),
    ("not", again),
    ("oneOf", schemaArray),
    ("pattern", formatted .pattern),
    ("patternProperties", memberwise again),
    ("properties", memberwise again),
    ("propertyNames", again),
    ("readOnly", boolean),
    ("required", stringArray),
    ("then", again),
    ("title", string),
    ("type",
      .keywords
        [.anyOf
          [simpleType,
            .keywords [.items simpleType, .minItems 1, .type [.array],
                .uniqueItems]]]),
    ("uniqueItems", boolean)]

/-- What a whole schema has to look like. -/
def schemaForm : Schema :=
  .keywords [.properties keywordForms, .type [.boolean, .object]]

/-- The schema that schema documents follow. -/
def schemaOfSchemas : Document where
  root := schemaForm
  targets := [("#", .ok schemaForm)]

end Eisen.Schema
