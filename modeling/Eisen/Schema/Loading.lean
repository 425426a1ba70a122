import Eisen.Json.Reader
import Eisen.Schema.Meta
import Eisen.Schema.Reference

namespace Eisen.Schema

/-!
# Reading schemas

A schema document is JSON text. It is checked against the schema of schemas
before it is read, and keywords without a meaning here are passed over. A
schema with a reference is that reference alone. What references lead to is
read too, but a fault there does not make the document wrong.
-/

/-- Why a schema document is refused. -/
inductive Fault where
  | unreadable (fault : Json.Fault)
  | invalid (violation : Violation)

/-- The wording of a fault. -/
def Fault.message : Fault → String
  | .unreadable fault => fault.message
  | .invalid violation => violation.text

/-- A part of a schema, or the first thing that is wrong with it. -/
abbrev Reading := Except Violation

/-- A part of a schema at a place that has none of the types it may have. -/
def mistyped
    {Part : Type}
    (path : List String)
    (value : Json)
    (kinds : List Kind) : Reading Part :=
  .error ⟨path, value, .wrongType kinds⟩

/-- The texts that some values are. -/
def textsOf
    (path : List String)
    (values : List Json) : Reading (List String) :=
  values.mapM fun
    | .text text => .ok text
    | value => mistyped path value [.string]

/-- The type that has a name. -/
def kindOf
    (path : List String)
    (name : String) : Reading Kind :=
  match Kind.ofName? name with
  | some kind => .ok kind
  | none => .error ⟨path, .text name, .notListed (Kind.all.map Kind.name)⟩

/--
The keyword of one type or of several, which are put in the order
of their names.
-/
def typeKeyword
    (path : List String)
    (value : Json) : Reading (List Keyword) :=
  match value with
  | .text name => .ok ((Kind.ofName? name).toList.map fun kind => .type [kind])
  | .array values => do
      let names ← textsOf (path ++ ["type"]) values
      let kinds ← names.mapM (kindOf (path ++ ["type"]))
      .ok [.type (Kind.all.filter kinds.contains)]
  | _ => mistyped path value [.array, .string]

/-- The keyword of required members. -/
def requiredKeyword
    (path : List String)
    (value : Json) : Reading (List Keyword) :=
  match value with
  | .array names => do .ok [.required (← textsOf (path ++ ["required"]) names)]
  | _ => mistyped (path ++ ["required"]) value [.array]

/-- The keyword of a least count, which is written without a decimal point. -/
def minItemsKeyword
    (path : List String)
    (value : Json) : Reading (List Keyword) :=
  match value with
  | .integer count =>
      if count < 0 then
        .error ⟨path ++ ["minItems"], value, .belowMinimum 0⟩
      else
        .ok [.minItems count.toNat]
  | _ => mistyped (path ++ ["minItems"]) value [.integer]

/-- The keyword of a pattern. -/
def patternKeyword
    (path : List String)
    (value : Json) : Reading (List Keyword) :=
  match value with
  | .text source =>
      match Pattern.read? source with
      | some pattern => .ok [.pattern ⟨source, pattern⟩]
      | none => .error ⟨path, value, .otherForm .pattern⟩
  | _ => mistyped path value [.string]

/-- What a value may describe; only what a keyword asks for is read. -/
structure Content where
  schema : Unit → Reading Schema
  items : Unit → Reading (List Schema)
  members : Unit → Reading (List (String × Schema))

/--
The keyword that a member of a schema describes, if it has a meaning. Known
members are checked together with the others where the others are restricted.
-/
def keywordOf
    (path : List String)
    (known : Option (Unit → Reading (List (String × Schema))))
    (others : Option Json)
    (name : String)
    (value : Json)
    (content : Content) : Reading (List Keyword) :=
  match name with
  | "additionalProperties" =>
      match value, known with
      | .bool true, _ => .ok []
      | .bool false, none => .ok [.noProperties]
      | .bool false, some members => do .ok [.closedProperties (← members ())]
      | _, none => do .ok [.openProperties [] (← content.schema ())]
      | _, some members =>
          do .ok [.openProperties (← members ()) (← content.schema ())]
  | "properties" =>
      match others with
      | some (.bool false) => .ok []
      | some (.object _) => .ok []
      | _ => do .ok [.properties (← content.members ())]
  | "allOf" => do .ok [.allOf (← content.items ())]
  | "anyOf" => do .ok [.anyOf (← content.items ())]
  | "oneOf" => do .ok [.oneOf (← content.items ())]
  | "items" =>
      match value with
      | .array _ => .ok []
      | _ => do .ok [.items (← content.schema ())]
  | "minItems" => minItemsKeyword path value
  | "pattern" => patternKeyword path value
  | "required" => requiredKeyword path value
  | "type" => typeKeyword path value
  | _ => .ok []

mutual

/-- The schema that a value at a place of the document describes. -/
def ofJson
    (path : List String) :
    Json → Reading Schema
  | .bool true => .ok .always
  | .bool false => .ok .never
  | .object members =>
      match Json.member? "$ref" members with
      | some (.text target) => .ok (.reference target)
      | some value => mistyped path value [.string]
      | none => do
          .ok (.keywords
            (← keywordsOf path (knownMembers? path members)
              (Json.member? "additionalProperties" members) members))
  | value => mistyped path value [.boolean, .object]

/-- The schemas that some values describe, the first of which has a number. -/
def ofItems
    (path : List String)
    (number : Nat) :
    List Json → Reading (List Schema)
  | [] => .ok []
  | item :: rest => do
      let first ← ofJson (path ++ [toString number]) item
      let others ← ofItems path (number + 1) rest
      .ok (first :: others)

/-- The schemas that some members describe. -/
def ofMembers
    (path : List String) :
    List (String × Json) → Reading (List (String × Schema))
  | [] => .ok []
  | (name, value) :: rest => do
      let first ← ofJson (path ++ [name]) value
      let others ← ofMembers path rest
      .ok ((name, first) :: others)

/-- The schemas that the items of a keyword's value describe. -/
def itemSchemas
    (path : List String)
    (keyword : String) :
    Json → Reading (List Schema)
  | .array items => ofItems (path ++ [keyword]) 0 items
  | value => mistyped path value [.array]

/-- The schemas that the members of a keyword's value describe. -/
def memberSchemas
    (path : List String)
    (keyword : String) :
    Json → Reading (List (String × Schema))
  | .object members => ofMembers (path ++ [keyword]) members
  | value => mistyped path value [.object]

/-- The schemas of the known members of an object, if any are named. -/
def knownMembers?
    (path : List String) :
    List (String × Json) → Option (Unit → Reading (List (String × Schema)))
  | [] => none
  | (name, value) :: rest =>
      if name = "properties" then
        some fun _ => memberSchemas path name value
      else
        knownMembers? path rest

/-- The keywords that members of a schema describe. -/
def keywordsOf
    (path : List String)
    (known : Option (Unit → Reading (List (String × Schema))))
    (others : Option Json) :
    List (String × Json) → Reading (List Keyword)
  | [] => .ok []
  | (name, value) :: rest => do
      let first ←
        keywordOf path known others name value
          { schema := fun _ => ofJson (path ++ [name]) value
            items := fun _ => itemSchemas path name value
            members := fun _ => memberSchemas path name value }
      let more ← keywordsOf path known others rest
      .ok (first ++ more)

end

/-- The schema to which a reference leads in a document. -/
def targetOf
    (document : Json)
    (reference : String) : Reading Schema :=
  match resolve document reference with
  | .ok part => ofJson [] part
  | .error cause => .error ⟨[], .text reference, cause⟩

namespace Document

/-- The schema document that a value describes. -/
def ofJson (value : Json) : Except Violation Document :=
  match schemaOfSchemas.violations value with
  | violation :: _ => .error violation
  | [] => do
      let root ← Schema.ofJson [] value
      .ok {
        root := root
        targets := (references value).eraseDups.map fun reference =>
          (reference, targetOf value reference) }

/-- Read a schema document. -/
def read (symbols : List Text.Symbol) : Except Fault Document :=
  match Json.readSymbols .stream symbols with
  | .error fault => .error (.unreadable fault)
  | .ok value =>
      match ofJson value with
      | .error violation => .error (.invalid violation)
      | .ok document => .ok document

end Document

end Eisen.Schema
