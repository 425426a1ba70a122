import Eisen.Command.Arguments
import Eisen.Command.Log
import Eisen.Storage.FileSystem

namespace Eisen.Command

/-!
# Endings of commands

What a command leaves behind: its exit code, what it wrote, and the files.
-/

/-- What a command leaves behind. -/
structure Ending where
  code : Nat
  output : String
  errors : String
  fileSystem : FileSystem
  deriving Repr, DecidableEq

/-- A command that ran, or whose arguments ask for no run. -/
inductive Result where
  | usage
  | help
  | ended (ending : Ending)
  deriving Repr, DecidableEq

/-- The version of the commands. -/
def version : String := "0.1.0"

/-- The name of the environment variable with the log filter. -/
def logVariable : String := "RUST_LOG"

/-- The name of the environment variable with the style of log lines. -/
def styleVariable : String := "RUST_LOG_STYLE"

/-- The name of the environment variable that forbids colours. -/
def withoutColourVariable : String := "NO_COLOR"

/-- The name of the environment variable that asks for colours. -/
def withColourVariable : String := "CLICOLOR_FORCE"

/-- The environment variables that log lines depend on. -/
def logVariables : List String :=
  [logVariable, styleVariable, withoutColourVariable, withColourVariable]

/-- The style of log lines where none is named; errors go to no terminal. -/
def usualStyle (environment : Environment) : Log.Style :=
  if (environment.lookup withoutColourVariable).getD "" != "" then
    .plain
  else if (environment.lookup withColourVariable).getD "0" != "0" then
    .coloured
  else
    .plain

/-- The style of log lines. -/
def logStyle (environment : Environment) : Log.Style :=
  match environment.lookup styleVariable with
  | some "always" => .coloured
  | some "never" => .plain
  | _ => usualStyle environment

/-- The log filter of a command, and warnings about it. -/
def logFilter
    (environment : Environment)
    (isQuiet : Bool) : Log.Filter × String :=
  match environment.lookup logVariable with
  | some text => Log.Filter.ofText text
  | none => Log.Filter.ofText (if isQuiet then "error" else "warn")

/-- The log of a command, and warnings about its filter. -/
def logWriter
    (environment : Environment)
    (isQuiet : Bool) : Log.Writer × String :=
  let (filter, warnings) := logFilter environment isQuiet
  ({ filter, style := logStyle environment }, warnings)

/-- Run a command on the arguments that are read from its words. -/
def Interface.run
    (interface : Interface)
    (command : Arguments → Option (FileSystem → Ending))
    (environment : Environment)
    (fileSystem : FileSystem)
    (words : List String) : Result :=
  match interface.read environment words with
  | .error .usage => .usage
  | .error .help => .help
  | .error .version =>
      .ended
        { code := 0
          output := interface.tool ++ " " ++ version ++ "\n"
          errors := ""
          fileSystem }
  | .ok arguments =>
      match command arguments with
      | none => .usage
      | some start => .ended (start fileSystem)

end Eisen.Command
