import Eisen.Json.Writer
import Eisen.Pattern.Basic
import Eisen.Text.Percent

namespace Eisen

/-!
# Schemas

A schema is a predicate on JSON values that also says what is wrong with a
value. The keywords of a schema are checked in the order in which they stand,
and each one ignores the values it does not apply to.
-/

namespace Schema

/-- The types of JSON values. An integer is a number too. -/
inductive Kind where
  | array
  | boolean
  | integer
  | null
  | number
  | object
  | string
  deriving Repr, DecidableEq

namespace Kind

/-- The name of a type. -/
def name : Kind → String
  | .array => "array"
  | .boolean => "boolean"
  | .integer => "integer"
  | .null => "null"
  | .number => "number"
  | .object => "object"
  | .string => "string"

/-- All types in the order of their names. -/
def all : List Kind :=
  [.array, .boolean, .integer, .null, .number, .object, .string]

/-- The type with a name. -/
def ofName? (name : String) : Option Kind :=
  all.find? fun kind => kind.name == name

/-- Whether a value has a type. -/
def admits : Kind → Json → Bool
  | .array, .array _ => true
  | .boolean, .bool _ => true
  | .integer, .integer _ => true
  | .integer, .real value => value.isInteger
  | .null, .null => true
  | .number, .integer _ => true
  | .number, .real _ => true
  | .object, .object _ => true
  | .string, .text _ => true
  | _, _ => false

end Kind

/-- The forms of texts that have a name. -/
inductive Format where
  | pattern
  /-- An address that stands by itself. -/
  | address
  /-- An address, or a place relative to one. -/
  | reference
  deriving Repr, DecidableEq

namespace Format

/-- The name of a form. -/
def name : Format → String
  | .pattern => "regex"
  | .address => "uri"
  | .reference => "uri-reference"

/-- Whether a text starts with the name of an address scheme and a colon. -/
def hasScheme (characters : List Char) : Bool :=
  let scheme := characters.takeWhile (· ≠ ':')
  decide (scheme.length < characters.length) &&
    (scheme.head?.any Char.isAlpha) &&
    scheme.all fun character =>
      character.isAlphanum || ['+', '-', '.'].contains character

/-- Whether a text has a form. -/
def admits
    (text : String) :
    Format → Bool
  | .pattern => (Pattern.read? text).isSome
  | .address => hasScheme text.toList
  | .reference => text.toList.all fun character =>
      !Text.isBlank character && character != '\\'

end Format

/-- A pattern with the text it was written as. -/
structure TextPattern where
  source : String
  pattern : Pattern
  deriving Repr, DecidableEq

end Schema

mutual

/-- A schema. -/
inductive Schema where
  /-- Accepts every value. -/
  | always
  /-- Accepts no value. -/
  | never
  /-- Accepts what the schema at a place of the document accepts. -/
  | reference (target : String)
  /-- Accepts what all keywords accept. -/
  | keywords (list : List Keyword)

/-- A condition on values. -/
inductive Keyword where
  | type (kinds : List Schema.Kind)
  | required (names : List String)
  | properties (members : List (String × Schema))
  /-- The known members of an object; it has no others. -/
  | closedProperties (members : List (String × Schema))
  /-- No member at all. -/
  | noProperties
  /-- The known members of an object, and a schema for all others. -/
  | openProperties (members : List (String × Schema)) (others : Schema)
  | items (schema : Schema)
  | minItems (count : Nat)
  | uniqueItems
  | pattern (text : Schema.TextPattern)
  | minimum (least : Int)
  | enumeration (values : List String)
  | format (form : Schema.Format)
  | allOf (schemas : List Schema)
  | anyOf (schemas : List Schema)
  | oneOf (schemas : List Schema)

end

namespace Schema

/-- What is wrong with a value. -/
inductive Cause where
  | wrongType (kinds : List Kind)
  | missingMember (name : String)
  | unexpectedMembers (names : List String)
  | fewItems (least : Nat)
  | repeatedItems
  | mismatch (pattern : String)
  /-- Matching the pattern has been given up. -/
  | undecided (failure : Pattern.Extended.Failure)
  | belowMinimum (least : Int)
  | notListed (values : List String)
  | otherForm (form : Format)
  | forbidden (part : Json)
  | matchesNone (keyword : String)
  | matchesSeveral
  /-- A reference to a place that the document does not have. -/
  | unknownReference (address : String)
  /-- A reference to another document. -/
  | foreignReference (address : String)
  /-- A reference whose bytes are no text. -/
  | brokenReference (fault : Text.EncodingFault)

/-- A cause at a place inside the checked value. -/
structure Violation where
  /-- Member names and item numbers on the way to the value. -/
  location : List String
  value : Json
  cause : Cause

/--
A schema with the schemas that its references name. A reference may lead to
something that is no schema; that is found out by the values checked with it.
-/
structure Document where
  root : Schema
  targets : List (String × Except Violation Schema)

/-- One step of a location as it is written in a pointer. -/
def pointerStep (step : String) : String :=
  String.ofList (step.toList.flatMap fun character =>
    if character = '~' then
      ['~', '0']
    else if character = '/' then
      ['~', '1']
    else
      [character])

/-- A location as a JSON pointer. -/
def pointer (location : List String) : String :=
  String.join (location.map fun step => "/" ++ pointerStep step)

/-- Names in single quotes, separated by commas. -/
def nameList (names : List String) : String :=
  ", ".intercalate (names.map fun name => "'" ++ name ++ "'")

/-- Names in double quotes, separated by commas. -/
def kindList (kinds : List Kind) : String :=
  ", ".intercalate (kinds.map fun kind => "\"" ++ kind.name ++ "\"")

/-- The wording of what is wrong with a value. -/
def Cause.message
    (value : Json) :
    Cause → String
  | .wrongType [kind] =>
      value.compact ++ " is not of type \"" ++ kind.name ++ "\""
  | .wrongType kinds => value.compact ++ " is not of types " ++ kindList kinds
  | .missingMember name => Json.quote name ++ " is a required property"
  | .unexpectedMembers names =>
      "Additional properties are not allowed (" ++ nameList names ++
        (if names.length = 1 then " was unexpected)" else " were unexpected)")
  | .fewItems least =>
      value.compact ++ " has less than " ++ toString least ++
        (if least = 1 then " item" else " items")
  | .repeatedItems => value.compact ++ " has non-unique elements"
  | .mismatch pattern =>
      value.compact ++ " does not match \"" ++ pattern ++ "\""
  | .undecided failure => "Error executing regex: " ++ failure.message
  | .belowMinimum least =>
      value.compact ++ " is less than the minimum of " ++ toString least
  | .notListed values =>
      value.compact ++ " is not one of " ++
        (Json.array (values.map .text)).compact
  | .otherForm form => value.compact ++ " is not a \"" ++ form.name ++ "\""
  | .forbidden part => "False schema does not allow " ++ part.compact
  | .matchesNone keyword =>
      value.compact ++
        " is not valid under any of the schemas listed in the '" ++
        keyword ++ "' keyword"
  | .matchesSeveral =>
      value.compact ++ " is valid under more than one of the schemas " ++
        "listed in the 'oneOf' keyword"
  | .unknownReference address => "Invalid reference: " ++ address
  | .foreignReference address =>
      "failed to resolve " ++ address ++
        ": cannot resolve relative external schema without root schema ID"
  | .brokenReference fault => fault.message

/-- The wording of a violation. -/
def Violation.text (violation : Violation) : String :=
  violation.cause.message violation.value

/--
The wording of a violation behind its location, which the root has none of.
-/
def Violation.message (violation : Violation) : String :=
  if violation.location.isEmpty then
    violation.text
  else
    pointer violation.location ++ ": " ++ violation.text

/-- The type of a checker for the schemas inside a keyword. -/
abbrev Checker := Schema → List String → Json → List Violation

/-- Check every item of an array. -/
def itemViolations
    (check : Checker)
    (schema : Schema)
    (location : List String)
    (index : Nat) :
    List Json → List Violation
  | [] => []
  | item :: rest =>
      check schema (location ++ [toString index]) item ++
        itemViolations check schema location (index + 1) rest

/-- Check a member if there is a schema for it. -/
def memberViolations
    (check : Checker)
    (schema : Option Schema)
    (location : List String)
    (member : String × Json) : List Violation :=
  match schema with
  | some schema => check schema (location ++ [member.1]) member.2
  | none => []

/-- Whether no two texts of a list are equal. -/
def allDistinct : List String → Bool
  | [] => true
  | text :: rest => !rest.contains text && allDistinct rest

/-- Whether a number is less than an integer. -/
def isBelow
    (least : Int) :
    Json → Bool
  | .integer value => decide (value < least)
  | .real value =>
      let signed : Int :=
        if value.negative then -value.numerator else value.numerator
      decide (signed < least * value.denominator)
  | _ => false

end Schema

/-- The violations of one keyword. -/
def Keyword.violations
    (check : Schema.Checker)
    (location : List String)
    (value : Json) :
    Keyword → List Schema.Violation
  | .type kinds =>
      if kinds.any fun kind => kind.admits value then
        []
      else
        [⟨location, value, .wrongType kinds⟩]
  | .required names =>
      match value with
      | .object members =>
          (names.filter fun name =>
            (Json.member? name members).isNone).map fun name =>
            ⟨location, value, .missingMember name⟩
      | _ => []
  | .properties known =>
      match value with
      | .object members =>
          members.flatMap fun member =>
            Schema.memberViolations check
              (known.lookup member.1) location member
      | _ => []
  | .closedProperties known =>
      match value with
      | .object members =>
          let unexpected :=
            (members.map Prod.fst).filter fun name => (known.lookup name).isNone
          (members.flatMap fun member =>
              Schema.memberViolations check
                (known.lookup member.1) location member) ++
            if unexpected.isEmpty then
              []
            else
              [⟨location, value, .unexpectedMembers unexpected⟩]
      | _ => []
  | .noProperties =>
      match value with
      | .object ((_, part) :: _) => [⟨location, value, .forbidden part⟩]
      | _ => []
  | .openProperties known others =>
      match value with
      | .object members =>
          members.flatMap fun member =>
            Schema.memberViolations check
              (some ((known.lookup member.1).getD others)) location member
      | _ => []
  | .items schema =>
      match value with
      | .array elements =>
          Schema.itemViolations check schema location 0 elements
      | _ => []
  | .minItems count =>
      match value with
      | .array elements =>
          if elements.length < count then
            [⟨location, value, .fewItems count⟩]
          else
            []
      | _ => []
  | .uniqueItems =>
      match value with
      | .array elements =>
          if Schema.allDistinct (elements.map Json.compact) then
            []
          else
            [⟨location, value, .repeatedItems⟩]
      | _ => []
  | .pattern text =>
      match value with
      | .text content =>
          match text.pattern.search content with
          | .ok true => []
          | .ok false => [⟨location, value, .mismatch text.source⟩]
          | .error failure => [⟨location, value, .undecided failure⟩]
      | _ => []
  | .minimum least =>
      if Schema.isBelow least value then
        [⟨location, value, .belowMinimum least⟩]
      else
        []
  | .enumeration values =>
      match value with
      | .text content =>
          if values.contains content then
            []
          else
            [⟨location, value, .notListed values⟩]
      | _ => [⟨location, value, .notListed values⟩]
  | .format form =>
      match value with
      | .text content =>
          if form.admits content then
            []
          else
            [⟨location, value, .otherForm form⟩]
      | _ => []
  | .allOf schemas => schemas.flatMap fun schema => check schema location value
  | .anyOf schemas =>
      if schemas.any fun schema => (check schema location value).isEmpty then
        []
      else
        [⟨location, value, .matchesNone "anyOf"⟩]
  | .oneOf schemas =>
      match schemas.countP fun schema =>
        (check schema location value).isEmpty with
      | 0 => [⟨location, value, .matchesNone "oneOf"⟩]
      | 1 => []
      | _ => [⟨location, value, .matchesSeveral⟩]

mutual

/-- The number of schemas and keywords inside a schema. -/
def Schema.size : Schema → Nat
  | .always => 1
  | .never => 1
  | .reference _ => 1
  | .keywords list => 1 + Keyword.totalSize list

/-- The number of schemas and keywords inside a keyword. -/
def Keyword.size : Keyword → Nat
  | .properties members => 1 + Schema.memberSize members
  | .closedProperties members => 1 + Schema.memberSize members
  | .openProperties members others =>
      1 + Schema.memberSize members + others.size
  | .items schema => 1 + schema.size
  | .allOf schemas => 1 + Schema.totalSize schemas
  | .anyOf schemas => 1 + Schema.totalSize schemas
  | .oneOf schemas => 1 + Schema.totalSize schemas
  | _ => 1

/-- The sizes of some keywords together. -/
def Keyword.totalSize : List Keyword → Nat
  | [] => 0
  | keyword :: rest => keyword.size + Keyword.totalSize rest

/-- The sizes of some schemas together. -/
def Schema.totalSize : List Schema → Nat
  | [] => 0
  | schema :: rest => schema.size + Schema.totalSize rest

/-- The sizes of the schemas of some members together. -/
def Schema.memberSize : List (String × Schema) → Nat
  | [] => 0
  | (_, schema) :: rest => schema.size + Schema.memberSize rest

end

mutual

/-- How deeply containers are nested in a value. -/
def Json.depth : Json → Nat
  | .array items => 1 + Json.itemDepth items
  | .object members => 1 + Json.memberDepth members
  | _ => 0

/-- The greatest depth of some items. -/
def Json.itemDepth : List Json → Nat
  | [] => 0
  | item :: rest => max item.depth (Json.itemDepth rest)

/-- The greatest depth of some members. -/
def Json.memberDepth : List (String × Json) → Nat
  | [] => 0
  | (_, value) :: rest => max value.depth (Json.memberDepth rest)

end

namespace Schema.Document

/-- The schema that a reference names, or what is wrong with it. -/
def target
    (document : Document)
    (name : String) : Except Violation Schema :=
  (document.targets.lookup name).getD
    (.error ⟨[], .text name, .unknownReference name⟩)

/-- The sizes of the schemas that references name together. -/
def targetSize : List (String × Except Violation Schema) → Nat
  | [] => 0
  | (_, .ok schema) :: rest => schema.size + targetSize rest
  | (_, .error _) :: rest => targetSize rest

/-- Check a value with at most `budget` nested schemas. -/
def violationsWithin
    (document : Document) :
    Nat → Checker
  | 0, _, _, _ => []
  | budget + 1, schema, location, value =>
      match schema with
      | .always => []
      | .never => [⟨location, value, .forbidden value⟩]
      | .reference name =>
          match document.target name with
          | .ok target => document.violationsWithin budget target location value
          | .error violation => [violation]
      | .keywords list =>
          list.flatMap fun keyword =>
            keyword.violations (document.violationsWithin budget) location value

/--
A number of nested schemas that no check reaches. Between two steps into the
value each schema of the document is entered at most once, unless references
run in a circle.
-/
def budget
    (document : Document)
    (value : Json) : Nat :=
  (document.root.size + targetSize document.targets + 1) * (value.depth + 1)

/-- The violations of a document by a value. -/
def violations
    (document : Document)
    (value : Json) : List Violation :=
  document.violationsWithin (document.budget value) document.root [] value

end Schema.Document

end Eisen
