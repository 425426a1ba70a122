import Eisen.Command.Catalog
import Eisen.Command.Convert

namespace Eisen.Command

/-!
# The command line

The outer layer of both commands. It takes in the files that the arguments name,
runs the command on them, and writes what the command changed. The name of the
program decides which command runs.
-/

/-- What stands on disk at some locations. -/
abbrev Entries := List (Storage.Location × Storage.Entry)

/-- The text of a location's path. -/
def locationText (location : Storage.Location) : String :=
  "/" ++ "/".intercalate location

/-- The location that segments lead to, if links are left aside. -/
def plainLocation : Storage.Location → List String → Storage.Location
  | here, [] => here
  | here, segment :: rest =>
      if Path.isFiller segment then
        plainLocation here rest
      else if segment = ".." then
        plainLocation here.dropLast rest
      else
        plainLocation (here ++ [segment]) rest

/-- The locations above a location, and the location itself. -/
def locationsTo (location : Storage.Location) : List Storage.Location :=
  (List.range location.length).map fun count => location.take (count + 1)

/-- What stands on disk at a location. -/
def takeEntry (location : Storage.Location) : IO (Option Storage.Entry) := do
  try
    let path ← IO.FS.realPath (locationText location)
    match (← path.metadata).type with
    | .dir => return some .directory
    | .file =>
        let bytes ← IO.FS.readBinFile (locationText location)
        return some (.file ⟨Text.symbolsOfBytes bytes.toList⟩)
    | _ => return none
  catch _ =>
    return none

/-- The names in a directory that are no links. -/
def plainNames (location : Storage.Location) : IO (List String) := do
  try
    let path ← IO.FS.realPath (locationText location)
    let found ← (← path.readDir).toList.filterM fun child => do
      return (← child.path.symlinkMetadata).type != .symlink
    return found.map fun child => child.fileName
  catch _ =>
    return []

/-- What stands on disk at a location and below it. -/
partial def takeBelow (location : Storage.Location) : IO Entries := do
  match ← takeEntry location with
  | none => return []
  | some .directory =>
      let inner ← (← plainNames location).mapM fun name =>
        takeBelow (location ++ [name])
      return (location, .directory) :: inner.flatten
  | some entry => return [(location, entry)]

/-- The file system with all that the given paths lead to. -/
def takeFiles (paths : List Path) : IO FileSystem := do
  let directory ← IO.currentDir
  let working := plainLocation [] (Path.ofText directory.toString).segments
  let locations := paths.map fun path =>
    plainLocation (if path.isAbsolute then [] else working) path.segments
  let above ←
      (locationsTo working ++ locations.flatMap locationsTo).eraseDups.mapM
    fun location => do
      return (← takeEntry location).toList.map fun entry => (location, entry)
  let below ← locations.mapM takeBelow
  let entries := (above.flatten ++ below.flatten).foldl
    (fun fileSystem (location, entry) => fileSystem.set location entry)
    (FileSystem.mk [] working)
  return entries

/-- Write an entry that a command left behind, unless it was there before. -/
def putEntry
    (before : FileSystem)
    (location : Storage.Location)
    (entry : Storage.Entry) : IO Unit := do
  if before.entry? location != some entry then
    match entry with
    | .directory => IO.FS.createDirAll (locationText location)
    | .file content =>
        IO.FS.writeFile (locationText location) (content.text?.getD "")
    | .link _ => pure ()

/-- Write what a command changed, outer directories first. -/
def putFiles (before after : FileSystem) : IO Unit := do
  for (location, entry) in after.entries.reverse do
    if entry = .directory then
      putEntry before location entry
  for (location, entry) in after.entries.reverse do
    if entry != .directory then
      putEntry before location entry

/-- The environment variables that a command knows. -/
def takeEnvironment (interface : Interface) : IO Environment := do
  let names :=
    logVariables ++
      (interface.operand :: interface.options).filterMap Parameter.fallback
  let found ← names.mapM fun name => do
    return (← IO.getEnv name).toList.map fun value => (name, value)
  return found.flatten

/-- The line that shows how a command is called. -/
def usageLine (interface : Interface) : String :=
  let options := interface.options.map fun option =>
    match option.arity with
    | .flag => "[--" ++ option.name ++ "]"
    | .choice values =>
        "[--" ++ option.name ++ " " ++ "|".intercalate values ++ "]"
    | _ => "[--" ++ option.name ++ " VALUE]"
  "Usage: " ++ interface.tool ++ " " ++ " ".intercalate options ++ " " ++
    interface.operand.name ++ "\n"

/--
The paths that arguments name; the working directory stands in for an operand.
-/
def namedPaths
    (interface : Interface)
    (environment : Environment)
    (words : List String) : List Path :=
  match interface.read environment words with
  | .error _ => []
  | .ok arguments =>
      let isPath := fun name =>
        (interface.operand :: interface.options).any fun parameter =>
          parameter.name == name && parameter.arity == .path
      let operand := (arguments.lookup interface.operand.name).getD "."
      Path.ofText operand ::
        (arguments.filter fun (name, _) => isPath name).map fun (_, value) =>
          Path.ofText value

/-- Run a command on the disk. -/
def runOnDisk
    (interface : Interface)
    (command : Environment → FileSystem → List String → Result)
    (words : List String) : IO UInt32 := do
  let environment ← takeEnvironment interface
  let before ← takeFiles (namedPaths interface environment words).eraseDups
  match command environment before words with
  | .usage =>
      IO.eprint (usageLine interface)
      return 2
  | .help =>
      IO.print (usageLine interface)
      return 0
  | .ended ending =>
      putFiles before ending.fileSystem
      IO.print ending.output
      IO.eprint ending.errors
      return UInt32.ofNat ending.code

end Eisen.Command

/-- Run the command that the program is named for. -/
def main (words : List String) : IO UInt32 := do
  let program ← IO.appPath
  if program.fileName == some Eisen.Command.convertInterface.tool then
    Eisen.Command.runOnDisk Eisen.Command.convertInterface
      Eisen.Command.convert words
  else
    Eisen.Command.runOnDisk Eisen.Command.catalogInterface
      Eisen.Command.catalog words
