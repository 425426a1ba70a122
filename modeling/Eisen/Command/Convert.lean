import Eisen.Catalog.Extensions
import Eisen.Command.Ending
import Eisen.Conversion.Files

namespace Eisen.Command

/-!
# The conversion command

Converts a script, or all scripts below a directory. The exit code is 1 where
something could not be converted.
-/

/-- What the conversion command is asked to do. -/
structure ConvertSettings where
  input : Path
  format : Conversion.Format
  directory : Option Path
  toOutput : Bool
  scriptExtension : String
  isQuiet : Bool
  deriving Repr, DecidableEq

/-- The parameters of the conversion command. -/
def convertInterface : Interface where
  tool := "eisen-translate"
  operand :=
    { name := "INPUT", short := none, arity := .path, fallback := none }
  options :=
    [{ name := "format", short := none, arity := .choice ["xml", "json"],
       fallback := none },
      { name := "out-dir", short := none, arity := .path, fallback := none },
      { name := "stdout", short := none, arity := .flag, fallback := none },
      { name := "script-ext", short := none, arity := .text, fallback := none },
      { name := "quiet", short := some 'q', arity := .flag, fallback := none }]

/--
The settings that arguments make. There has to be an input, and what is written
to the output goes into no directory.
-/
def ConvertSettings.ofArguments? (arguments : Arguments) :
    Option ConvertSettings :=
  let directory := (arguments.lookup "out-dir").map Path.ofText
  let toOutput := (arguments.lookup "stdout").isSome
  if toOutput ∧ directory.isSome then
    none
  else
    (arguments.lookup "INPUT").map fun input =>
      { input := Path.ofText input
        format :=
          if arguments.lookup "format" = some "json" then .json else .xml
        directory
        toOutput
        scriptExtension :=
          (arguments.lookup "script-ext").getD PairExtensions.defaultScript
        isQuiet := (arguments.lookup "quiet").isSome }

/-- The record of a converted file. -/
def conversionRecord (input output : Path) : Log.Record where
  level := .debug
  target := "eisencat::translate"
  message := input.text ++ " -> " ++ output.text

/-- The record of a converted directory. -/
def directoryRecord (results : List Conversion.Converted) : Log.Record where
  level := .info
  target := "eisen_translate"
  message :=
    "translated " ++
      toString (results.length - results.countP Conversion.Converted.failed) ++
      " of " ++ toString results.length ++ " script(s)"

/-- What a converted script adds to the output. -/
def outputLine (converted : Conversion.Converted) : String :=
  match converted.result with
  | .ok output => output.text ++ "\n"
  | .error _ => ""

/-- What a converted script adds to the errors. -/
def errorLine
    (log : Log.Writer)
    (converted : Conversion.Converted) : String :=
  match converted.result with
  | .ok output => log.line (conversionRecord converted.script output)
  | .error fault => "failed: " ++ fault.message ++ "\n"

/-- The ending of a conversion command that fails as a whole. -/
def convertFailure
    (fileSystem : FileSystem)
    (warnings message : String) : Ending where
  code := 1
  output := ""
  errors := warnings ++ convertInterface.tool ++ ": " ++ message ++ "\n"
  fileSystem := fileSystem

/-- Convert all scripts below a directory. -/
def convertDirectory
    (settings : ConvertSettings)
    (log : Log.Writer)
    (warnings : String)
    (fileSystem : FileSystem) : Ending :=
  let extension := PairExtensions.withoutDots settings.scriptExtension
  match Conversion.collect fileSystem settings.input extension with
  | .error fault => convertFailure fileSystem warnings fault.message
  | .ok scripts =>
      let (converted, results) :=
        Conversion.convertAll settings.input settings.directory
          settings.format fileSystem
          scripts
      { code := if results.any Conversion.Converted.failed then 1 else 0
        output := String.join (results.map outputLine)
        errors :=
          warnings ++ String.join (results.map (errorLine log)) ++
            log.line (directoryRecord results)
        fileSystem := converted }

/-- Convert a script and write the result to the output. -/
def convertToOutput
    (settings : ConvertSettings)
    (warnings : String)
    (fileSystem : FileSystem) : Ending :=
  match Conversion.convertedText fileSystem settings.input settings.format with
  | .error fault => convertFailure fileSystem warnings fault.message
  | .ok converted =>
      { code := 0
        output := converted
        errors := warnings
        fileSystem }

/-- Convert a script and write the result to a file. -/
def convertToFile
    (settings : ConvertSettings)
    (log : Log.Writer)
    (warnings : String)
    (fileSystem : FileSystem) : Ending :=
  match
    Conversion.convertFile fileSystem settings.input settings.directory
      settings.format
  with
  | (left, .error fault) => convertFailure left warnings fault.message
  | (written, .ok output) =>
      { code := 0
        output := output.text ++ "\n"
        errors := warnings ++ log.line (conversionRecord settings.input output)
        fileSystem := written }

/-- Convert what the settings name. -/
def runConvert
    (environment : Environment)
    (settings : ConvertSettings)
    (fileSystem : FileSystem) : Ending :=
  let (log, warnings) := logWriter environment settings.isQuiet
  if fileSystem.isDirectory settings.input then
    if settings.toOutput then
      convertFailure fileSystem warnings
        "--stdout needs a single script, not a directory"
    else
      convertDirectory settings log warnings fileSystem
  else if settings.toOutput then
    convertToOutput settings warnings fileSystem
  else
    convertToFile settings log warnings fileSystem

/-- Run the conversion command. -/
def convert
    (environment : Environment)
    (fileSystem : FileSystem)
    (words : List String) : Result :=
  convertInterface.run
    (fun arguments =>
      (ConvertSettings.ofArguments? arguments).map (runConvert environment))
    environment fileSystem words

end Eisen.Command
