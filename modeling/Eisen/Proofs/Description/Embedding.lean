import Eisen.Description.Files

namespace Eisen.Description

open Schema

/-!
# The schema that is read as the embedded one

The embedded schema is what the readers of schemas and of patterns make of a
document. So a file with this document is as good as no file at all: however its
text is laid out, it is loaded as the same schema under its own label.
-/

/-! The document. -/

/-- A schema that asks for a type only. -/
def typeValue (kind : Kind) : Json :=
  .object [("type", .text kind.name)]

/-- A schema that asks for a text in which a pattern is found. -/
def patternValue (source : String) : Json :=
  .object [("pattern", .text source), ("type", .text "string")]

/-- A schema that refers to a definition. -/
def definitionValue (name : String) : Json :=
  .object [("$ref", .text ("#/definitions/" ++ name))]

/-- The definition of numerals. -/
def numeralValue : Json :=
  .object
    [("oneOf", .array [typeValue .number, patternValue "\\S"])]

/-- The definition of rule names. -/
def nameValue : Json :=
  patternValue "^[A-Za-z][A-Za-z0-9_]*$"

/-- The definition of calls. -/
def callValue : Json :=
  .object
    [("additionalProperties", .bool false),
      ("oneOf", .array
        [.object [("required", .array [.text "rule"])],
          .object [("required", .array [.text "shape"])]]),
      ("properties", .object
        [("count", definitionValue "numeric"),
          ("rule", definitionValue "rule_name"),
          ("shape", patternValue "^(box|grid|sphere|line)(::[A-Za-z0-9_:]+)?$"),
          ("transforms", typeValue .string)]),
      ("type", .text "object")]

/-- The definition of rules. -/
def ruleValue : Json :=
  .object
    [("additionalProperties", .bool false),
      ("properties", .object
        [("calls", .object
            [("items", definitionValue "call"), ("type", .text "array")]),
          ("max_depth", definitionValue "numeric"),
          ("name", definitionValue "rule_name"),
          ("successor", definitionValue "rule_name"),
          ("weight", definitionValue "numeric")]),
      ("required", .array [.text "name"]),
      ("type", .text "object")]

/-- The document of the schema, with members in the order of their names. -/
def schemaValue : Json :=
  .object
    [("$schema", .text "http://json-schema.org/draft-07/schema#"),
      ("additionalProperties", .bool false),
      ("definitions", .object
        [("call", callValue), ("numeric", numeralValue), ("rule", ruleValue),
          ("rule_name", nameValue)]),
      ("description", .text
        "JSON half of an example pair: the EisenXML rule set expressed as JSON."),
      ("properties", .object
        [("$schema", typeValue .string),
          ("max_depth", definitionValue "numeric"),
          ("rules", .object
            [("items", definitionValue "rule"), ("minItems", .integer 1),
              ("type", .text "array")]),
          ("source", typeValue .string),
          ("title", typeValue .string)]),
      ("required", .array [.text "rules"]),
      ("title", .text "EisenScript example description"),
      ("type", .text "object")]

/-! Patterns. -/

/-- The patterns of the schema are what their sources write. -/
theorem read?_source :
    ∀ text ∈ [inkPattern, namePattern, shapePattern],
      Pattern.read? text.source = some text.pattern := by
  decide +kernel

/--
A schema that asks for a pattern is read with the pattern that its
source writes.
-/
theorem ofJson_patternValue
    {source : String}
    {pattern : Pattern}
    (isRead : Pattern.read? source = some pattern)
    (path : List String) :
    Schema.ofJson path (patternValue source) =
      .ok (.keywords [.pattern ⟨source, pattern⟩, .type [.string]]) := by
  have keyword : patternKeyword path (.text source) =
      .ok [.pattern ⟨source, pattern⟩] := by
    simp only [patternKeyword, isRead]
  simp only [patternValue, Schema.ofJson, keywordsOf, keywordOf, keyword]
  rfl

/-! Definitions. -/

/-- A reference leads to the definition that it names. -/
theorem resolve_definition
    {name : String}
    {part : Json}
    (isText : Text.ofSymbols? (Text.symbolsOfBytes (Text.percentDecode
      (Text.bytesOf ("/definitions/" ++ name)))) =
        some ("/definitions/" ++ name))
    (isReference : referenceText ("#/definitions/" ++ name) =
      '#' :: ("/definitions/" ++ name).toList)
    (isPart : pointed? ("/definitions/" ++ name) schemaValue = some part) :
    resolve schemaValue ("#/definitions/" ++ name) = .ok part := by
  simp only [resolve, isReference, String.ofList_toList, Text.decode,
    isText, isPart]

/-- The definition of numerals is read as their schema. -/
theorem ofJson_numeralValue :
    Schema.ofJson [] numeralValue = .ok numeralSchema := by
  have isRead : Pattern.read? "\\S" = some inkPattern.pattern :=
    read?_source inkPattern (.head _)
  simp only [numeralValue, Schema.ofJson, keywordsOf, keywordOf, itemSchemas,
    ofItems, ofJson_patternValue isRead]
  rfl

/-- The definition of calls is read as their schema. -/
theorem ofJson_callValue :
    Schema.ofJson [] callValue = .ok callSchema := by
  have isRead :
      Pattern.read? "^(box|grid|sphere|line)(::[A-Za-z0-9_:]+)?$" =
        some shapePattern.pattern :=
    read?_source shapePattern (.tail _ (.tail _ (.head _)))
  simp only [callValue, Schema.ofJson, keywordsOf, keywordOf, knownMembers?,
    memberSchemas, ofMembers, ofJson_patternValue isRead]
  rfl

/--
What a reference leads to is read as the schema that the definition writes.
-/
theorem targetOf_definition
    {name : String}
    {part : Json}
    {schema : Schema}
    (isText : Text.ofSymbols? (Text.symbolsOfBytes (Text.percentDecode
      (Text.bytesOf ("/definitions/" ++ name)))) =
        some ("/definitions/" ++ name))
    (isReference : referenceText ("#/definitions/" ++ name) =
      '#' :: ("/definitions/" ++ name).toList)
    (isPart : pointed? ("/definitions/" ++ name) schemaValue = some part)
    (isRead : Schema.ofJson [] part = .ok schema) :
    targetOf schemaValue ("#/definitions/" ++ name) = .ok schema := by
  simp only [targetOf, resolve_definition isText isReference isPart, isRead]

/--
The references of the document lead to the definitions of the embedded schema.
-/
theorem targets_schemaValue :
    ((references schemaValue).eraseDups.map fun reference =>
        (reference, targetOf schemaValue reference)) =
      descriptionDocument.targets := by
  have found : (references schemaValue).eraseDups =
      ["#/definitions/" ++ "numeric", "#/definitions/" ++ "rule_name",
        "#/definitions/" ++ "call", "#/definitions/" ++ "rule"] := by
    decide +kernel
  have numeric := @targetOf_definition "numeric" numeralValue numeralSchema
    (by decide +kernel) (by decide +kernel) rfl ofJson_numeralValue
  have ruleName := @targetOf_definition "rule_name" nameValue nameSchema
    (by decide +kernel) (by decide +kernel) rfl
    (ofJson_patternValue (read?_source namePattern (.tail _ (.head _))) [])
  have call := @targetOf_definition "call" callValue callSchema
    (by decide +kernel) (by decide +kernel) rfl ofJson_callValue
  have rule := @targetOf_definition "rule" ruleValue ruleSchema
    (by decide +kernel) (by decide +kernel) rfl rfl
  simp only [found, List.map_cons, List.map_nil, numeric, ruleName, call, rule]
  rfl

/-- The document has the form of a schema. -/
theorem violations_schemaValue :
    schemaOfSchemas.violations schemaValue = [] := by
  decide +kernel

/--
A value that has the form of a schema is read with what its references lead to.
-/
theorem ofJson_eq_ok
    {value : Json}
    {root : Schema}
    (isSchema : schemaOfSchemas.violations value = [])
    (isRoot : Schema.ofJson [] value = .ok root) :
    Document.ofJson value =
      .ok {
        root := root
        targets := (references value).eraseDups.map fun reference =>
          (reference, targetOf value reference) } := by
  rw [Document.ofJson, isSchema, isRoot]
  rfl

/-- The document is read as the embedded schema. -/
theorem ofJson_schemaValue :
    Document.ofJson schemaValue = .ok LabelledSchema.embedded.document := by
  have root : Schema.ofJson [] schemaValue = .ok descriptionSchema := rfl
  rw [ofJson_eq_ok violations_schemaValue root, targets_schemaValue]
  rfl

/-- A file is loaded as the document that its value writes. -/
theorem load_eq_ok
    {fileSystem : FileSystem}
    {path : Path}
    {content : Storage.Content}
    {value : Json}
    {document : Document}
    (stored : fileSystem.content path = .ok content)
    (written : Json.readSymbols .stream content.symbols = .ok value)
    (isDocument : Document.ofJson value = .ok document) :
    LabelledSchema.load fileSystem path =
      .ok { label := path.text, document } := by
  simp only [LabelledSchema.load, stored, Document.read, written, isDocument]

/--
A file that holds the document of the schema, however its text is laid out, is
loaded as the embedded schema. Only the label tells the two apart.
-/
theorem load_schemaValue
    {fileSystem : FileSystem}
    {path : Path}
    {content : Storage.Content}
    (stored : fileSystem.content path = .ok content)
    (written : Json.readSymbols .stream content.symbols = .ok schemaValue) :
    LabelledSchema.load fileSystem path =
      .ok { LabelledSchema.embedded with label := path.text } :=
  load_eq_ok stored written ofJson_schemaValue

end Eisen.Description
