import Eisen.Catalog.Report
import Eisen.Command.Ending

namespace Eisen.Command

/-!
# The catalog command

Checks the examples below a directory and writes a report. The exit code is 0
where every example is valid, 1 where some are not, and 2 where nothing could be
checked.
-/

/-- What the catalog command is asked to do. -/
structure CatalogSettings where
  root : Path
  format : Report.Format
  scriptExtension : String
  dataExtension : String
  schema : Option Path
  isQuiet : Bool
  deriving Repr, DecidableEq

/-- The parameters of the catalog command. -/
def catalogInterface : Interface where
  tool := "eisen-catalog"
  operand :=
    { name := "ROOT", short := none, arity := .path,
      fallback := some "EISEN_CATALOG_ROOT" }
  options :=
    [{ name := "format", short := none, arity := .choice ["text", "json"],
       fallback := some "EISEN_CATALOG_FORMAT" },
      { name := "script-ext", short := none, arity := .text, fallback := none },
      { name := "data-ext", short := none, arity := .text, fallback := none },
      { name := "schema", short := none, arity := .path,
        fallback := some "EISEN_CATALOG_SCHEMA" },
      { name := "quiet", short := some 'q', arity := .flag, fallback := none }]

/-- The settings that arguments make. -/
def CatalogSettings.ofArguments (arguments : Arguments) : CatalogSettings where
  root := Path.ofText ((arguments.lookup "ROOT").getD ".")
  format := if arguments.lookup "format" = some "json" then .json else .text
  scriptExtension :=
    (arguments.lookup "script-ext").getD PairExtensions.defaultScript
  dataExtension := (arguments.lookup "data-ext").getD PairExtensions.defaultData
  schema := (arguments.lookup "schema").map Path.ofText
  isQuiet := (arguments.lookup "quiet").isSome

/-- The record of a file found for an example. -/
def halfRecord (half : Catalog.Half) : Log.Record where
  level := .debug
  target := "eisencat::catalog::scanner"
  message := "found " ++ half.relative.text ++ " for example " ++ half.name

/-- The record of the start of a validation. -/
def startRecord (catalog : Catalog) : Log.Record where
  level := .info
  target := "eisencat"
  message :=
    "validating " ++ toString catalog.examples.length ++ " example(s) under " ++
      catalog.root.text

/-- The record of a validated example. -/
def validationRecord (validation : Validation) : Log.Record where
  level := .debug
  target := "eisencat::validation"
  message :=
    "validated " ++ validation.subject.name ++ ": " ++
      toString validation.discrepancies.length ++ " discrepancy(ies)"

/-- The records of a check. -/
def checkRecords
    (halves : List Catalog.Half)
    (catalog : Catalog)
    (validations : List Validation) : List Log.Record :=
  halves.map halfRecord ++ [startRecord catalog] ++
    validations.map validationRecord

/-- The ending of a catalog command that could check nothing. -/
def catalogFailure
    (fileSystem : FileSystem)
    (warnings message : String) : Ending where
  code := 2
  output := ""
  errors := warnings ++ catalogInterface.tool ++ ": " ++ message ++ "\n"
  fileSystem := fileSystem

/-- Check the examples of a catalog. -/
def runCatalog
    (environment : Environment)
    (settings : CatalogSettings)
    (fileSystem : FileSystem) : Ending :=
  let (log, warnings) := logWriter environment settings.isQuiet
  let fail := catalogFailure fileSystem warnings
  match PairExtensions.ofTexts settings.scriptExtension
      settings.dataExtension with
  | .error fault => fail fault.message
  | .ok extensions =>
      match Description.LabelledSchema.resolve fileSystem settings.schema with
      | .error fault => fail fault.message
      | .ok schema =>
          match Catalog.halves fileSystem extensions settings.root with
          | .error fault => fail fault.message
          | .ok halves =>
              let catalog := Catalog.ofHalves settings.root halves
              let validations := catalog.validations fileSystem schema
              let report := Report.ofValidations catalog validations
              { code := if report.allValid then 0 else 1
                output := report.render settings.format
                errors :=
                  warnings ++ log.lines
                    (checkRecords halves catalog validations)
                fileSystem }

/-- Run the catalog command. -/
def catalog
    (environment : Environment)
    (fileSystem : FileSystem)
    (words : List String) : Result :=
  catalogInterface.run
    (fun arguments =>
      some (runCatalog environment (CatalogSettings.ofArguments arguments)))
    environment fileSystem words

end Eisen.Command
