import Eisen.Conversion.Basic
import Eisen.Storage.Directories
import Eisen.Storage.Walk

namespace Eisen.Conversion

/-!
# Converting files

Converting one file, and all scripts below a directory. A file is read and
converted before anything is written, and a script that cannot be converted does
not keep the others from it.
-/

/-- Why a file cannot be converted. -/
inductive Fault where
  | unread (input : Path) (fault : Storage.Fault)
  | refused (input : Path) (fault : Script.Fault)
  | noDirectory (directory : Path) (fault : Storage.Fault)
  | unwritten (output : Path) (fault : Storage.Fault)

/-- The wording of a fault. -/
def Fault.message : Fault → String
  | .unread input fault => "reading " ++ input.text ++ ": " ++ fault.message
  | .refused input fault =>
      "translating " ++ input.text ++ ": " ++ fault.message
  | .noDirectory directory fault =>
      "creating " ++ directory.text ++ ": " ++ fault.message
  | .unwritten output fault =>
      "writing " ++ output.text ++ ": " ++ fault.message

/-- The converted text of a file; its title is the stem of the file's name. -/
def convertedText
    (fileSystem : FileSystem)
    (input : Path)
    (format : Format) :
    Except Fault String :=
  match fileSystem.readText input with
  | .error fault => .error (.unread input fault)
  | .ok source => (convert source input.stem? format).mapError (.refused input)

/-- Make the directory for the output, if one is named. -/
def prepare
    (fileSystem : FileSystem) :
    Option Path → FileSystem × Except Fault Unit
  | none => (fileSystem, .ok ())
  | some directory =>
      let (made, result) := fileSystem.makeDirectories directory
      (made, result.mapError (.noDirectory directory))

/-- Convert a file and write the result; the answer is where it went. -/
def convertFile
    (fileSystem : FileSystem)
    (input : Path)
    (directory : Option Path)
    (format : Format) :
    FileSystem × Except Fault Path :=
  match convertedText fileSystem input format with
  | .error fault => (fileSystem, .error fault)
  | .ok converted =>
      let output := outputPath input directory format
      match prepare fileSystem directory with
      | (prepared, .error fault) => (prepared, .error fault)
      | (prepared, .ok ()) =>
          match prepared.write output (.ofText converted) with
          | .error fault => (prepared, .error (.unwritten output fault))
          | .ok written => (written, .ok output)

/-- The scripts with an extension below a root, as a walk meets them. -/
def scriptsBelow
    (fileSystem : FileSystem)
    (root : Path)
    (extension : String) : List Path :=
  (fileSystem.walk root).filter fun path =>
    path.hasExtension extension

/-- A root below which no scripts can be looked for. -/
structure RootFault where
  root : Path
  deriving Repr, DecidableEq

/-- The wording of a fault. -/
def RootFault.message (fault : RootFault) : String :=
  fault.root.text ++ " is not a directory"

/-- The scripts below a root, which has to be a directory if there are none. -/
def collect
    (fileSystem : FileSystem)
    (root : Path)
    (extension : String) :
    Except RootFault (List Path) :=
  let scripts := scriptsBelow fileSystem root extension
  if scripts.isEmpty ∧ !fileSystem.isDirectory root then
    .error { root }
  else
    .ok scripts

/-- What became of a script. -/
structure Converted where
  script : Path
  result : Except Fault Path

/-- Whether a script could not be converted. -/
def Converted.failed (converted : Converted) : Bool :=
  match converted.result with
  | .error _ => true
  | .ok _ => false

/-- Convert scripts one after the other. -/
def convertAll
    (root : Path)
    (directory : Option Path)
    (format : Format)
    (fileSystem : FileSystem) :
    List Path → FileSystem × List Converted
  | [] => (fileSystem, [])
  | script :: rest =>
      let (next, result) :=
        convertFile fileSystem script
          (directory.map fun output =>
            outputDirectory root script output) format
      let (last, others) := convertAll root directory format next rest
      (last, { script, result } :: others)

end Eisen.Conversion
