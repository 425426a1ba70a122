import Eisen.Description.Reading
import Eisen.Schema.Loading
import Eisen.Storage.FileSystem

namespace Eisen.Description

/-!
# Files of descriptions and schemas

Loading a description from a file, and a schema in place of the one that is
built in. Messages about a schema name its file.
-/

/-- Why a description cannot be loaded. -/
inductive LoadFault where
  | storage (fault : Storage.Fault)
  | content (fault : Fault)

/-- The wording of a fault. -/
def LoadFault.message : LoadFault → String
  | .storage fault => "unable to read: " ++ fault.message
  | .content fault => fault.message

/-- Read a description from what reading its file gave. -/
def ofFileText
    (schema : LabelledSchema)
    (fileText : Except Storage.Fault String) :
    Except LoadFault Description :=
  match fileText with
  | .error fault => .error (.storage fault)
  | .ok content => (read schema content).mapError .content

/-- Load the description in a file. -/
def load
    (fileSystem : FileSystem)
    (schema : LabelledSchema)
    (path : Path) :
    Except LoadFault Description :=
  ofFileText schema (fileSystem.readText path)

/-- Why a schema cannot be loaded. -/
inductive SchemaFault where
  | unopened (path : Path) (fault : Storage.Fault)
  | unread (path : Path) (fault : Storage.Fault)
  | refused (path : Path) (fault : Schema.Fault)

/-- What was done with a schema when it was refused. -/
def refusalLabel : Schema.Fault → String
  | .unreadable _ => "parsing schema "
  | .invalid _ => "compiling schema "

/-- The wording of a fault. -/
def SchemaFault.message : SchemaFault → String
  | .unopened path fault =>
      "opening schema " ++ path.text ++ ": " ++ fault.message
  | .unread path fault =>
      "parsing schema " ++ path.text ++ ": " ++ fault.message
  | .refused path fault =>
      refusalLabel fault ++ path.text ++ ": " ++ fault.message

namespace LabelledSchema

/-- Load the schema in a file. A directory can be opened, but not read. -/
def load
    (fileSystem : FileSystem)
    (path : Path) :
    Except SchemaFault LabelledSchema :=
  match fileSystem.content path with
  | .error .isDirectory => .error (.unread path .isDirectory)
  | .error fault => .error (.unopened path fault)
  | .ok content =>
      match Schema.Document.read content.symbols with
      | .error fault => .error (.refused path fault)
      | .ok document => .ok { label := path.text, document }

/-- The schema in a file, or the one that is built in where no file is named. -/
def resolve
    (fileSystem : FileSystem) :
    Option Path → Except SchemaFault LabelledSchema
  | some path => load fileSystem path
  | none => .ok embedded

end LabelledSchema

end Eisen.Description
