import Eisen.Description.Basic
import Eisen.RuleSet.Markup
import Eisen.RuleSet.Unrolling
import Eisen.Storage.Path

namespace Eisen.Conversion

/-!
# Converted scripts

A script is converted into markup or into a description, and the result goes to
a file whose name follows from the script's: markup keeps the name and adds an
extension, and a description replaces the extension, so that it is the data half
of the script's pair.
-/

/-- The form into which scripts are converted. -/
inductive Format where
  | xml
  | json
  deriving Repr, DecidableEq

/-- Write a rule set; only a description has a title. -/
def render
    (title : Option String)
    (ruleSet : RuleSet) :
    Format → String
  | .xml => ruleSet.markup
  | .json => Description.fileText { title, source := none, ruleSet }

/-- Convert the text of a script. -/
def convert
    (source : String)
    (title : Option String)
    (format : Format) :
    Except Script.Fault String :=
  (RuleSet.ofSource source).map fun ruleSet => render title ruleSet format

/-- The file name of a script without one. -/
def namelessScript : String := "script"

/-- The file name of the converted script. -/
def outputName
    (input : Path)
    (format : Format) : Path :=
  let name := input.fileName?.getD namelessScript
  match format with
  | .xml => Path.ofNames [name ++ ".xml"]
  | .json => (Path.ofNames [name]).withExtension "json"

/-- Where a converted script goes: into a directory, or beside the script. -/
def outputPath
    (input : Path)
    (directory : Option Path)
    (format : Format) : Path :=
  (directory.getD (input.parent?.getD Path.empty)).join
    (outputName input format)

/-- The directory below an output directory for a script found below a root. -/
def outputDirectory
    (root script directory : Path) : Path :=
  match script.parent?.bind fun parent => parent.relativeTo? root with
  | some relative => directory.join relative
  | none => directory

end Eisen.Conversion
