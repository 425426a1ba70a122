import Eisen.Description.Basic
import Eisen.Description.Schema
import Eisen.Json.Reader

namespace Eisen.Description

/-!
# Reading descriptions

A description is read in three steps, so that a fault tells which of them
refuses the text: as JSON, against the schema, and as a description.
-/

/-- Why a text is no description. -/
inductive Fault where
  | notJson (fault : Json.Fault)
  | violations (messages : List String)
  | misshapen (fault : Decoding.Fault)

/-- The wording of a fault. -/
def Fault.message : Fault → String
  | .notJson fault => "invalid JSON: " ++ fault.message
  | .violations messages => "schema violation: " ++ "; ".intercalate messages
  | .misshapen fault => "unexpected structure: " ++ fault.message

/-- The violations of a schema by a value, in words. -/
def LabelledSchema.messages
    (schema : LabelledSchema)
    (value : Json) : List String :=
  (schema.document.violations value).map Schema.Violation.message

/-- Read a description that follows a schema. -/
def read
    (schema : LabelledSchema)
    (content : String) :
    Except Fault Description :=
  match Json.read content with
  | .error fault => .error (.notJson fault)
  | .ok value =>
      match schema.messages value with
      | [] => (ofJson value).mapError .misshapen
      | messages => .error (.violations messages)

end Eisen.Description
