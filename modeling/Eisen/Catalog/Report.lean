import Eisen.Catalog.Scan
import Eisen.Catalog.Validation

namespace Eisen

/-!
# Reports

What a validation of a whole catalog found, as text or as JSON. Examples stand
in the order of the catalog and paths are shown below its root.
-/

/-- The line of an example in a report. -/
structure ReportItem where
  name : String
  script : Option String
  data : Option String
  discrepancies : List String
  deriving Repr, DecidableEq

/-- Whether nothing was found about an example. -/
def ReportItem.passed (item : ReportItem) : Bool :=
  item.discrepancies.isEmpty

/-- The findings about all examples below a root. -/
structure Report where
  root : String
  items : List ReportItem
  deriving Repr, DecidableEq

namespace Report

/-- The form in which a report is written. -/
inductive Format where
  | text
  | json
  deriving Repr, DecidableEq

/-- The report on a catalog's validations. -/
def ofValidations
    (catalog : Catalog)
    (validations : List Validation) : Report where
  root := catalog.root.text
  items :=
    validations.map fun validation =>
      { name := validation.subject.name
        script := validation.subject.script.map catalog.shownPath
        data := validation.subject.data.map catalog.shownPath
        discrepancies := validation.discrepancies.map Discrepancy.message }

/-- The number of examples. -/
def total (report : Report) : Nat :=
  report.items.length

/-- The number of examples without findings. -/
def valid (report : Report) : Nat :=
  report.items.countP ReportItem.passed

/-- The number of examples with findings. -/
def invalid (report : Report) : Nat :=
  report.total - report.valid

/-- Whether no example has findings. -/
def allValid (report : Report) : Bool :=
  report.invalid == 0

/-- The lines of an example. -/
def itemLines (item : ReportItem) : List String :=
  ((if item.passed then "PASS  " else "FAIL  ") ++ item.name) ::
    item.discrepancies.map fun finding => "      - " ++ finding

/-- The last line of a report. -/
def summaryLine (report : Report) : String :=
  toString report.total ++ " example(s) under " ++ report.root ++ ": " ++
    toString report.valid ++ " valid, " ++ toString report.invalid ++ " invalid"

/-- The lines of a report. -/
def lines (report : Report) : List String :=
  report.items.flatMap itemLines ++ [report.summaryLine]

/-- The JSON value of an example's findings. -/
def itemJson (item : ReportItem) : Json :=
  .object
    ([("name", .text item.name),
        ("status", .text (if item.passed then "pass" else "fail"))] ++
      optionalMember "script" .text item.script ++
      optionalMember "data" .text item.data ++
      [("discrepancies", .array (item.discrepancies.map .text))])

/-- The JSON value of a report. -/
def toJson (report : Report) : Json :=
  .object
    [("root", .text report.root),
      ("summary",
        .object
          [("total", .integer report.total),
            ("valid", .integer report.valid),
            ("invalid", .integer report.invalid)]),
      ("examples", .array (report.items.map itemJson))]

/-- Write a report. -/
def render
    (report : Report) :
    Format → String
  | .text => String.join (report.lines.map fun line => line ++ "\n")
  | .json => report.toJson.indented ++ "\n"

end Report

namespace Catalog

/-- Why a catalog cannot be checked. -/
inductive CheckFault where
  | schema (fault : Description.SchemaFault)
  | root (fault : Fault)

/-- The wording of a fault. -/
def CheckFault.message : CheckFault → String
  | .schema fault => fault.message
  | .root fault => fault.message

/-- Validate every example of a catalog. -/
def validations
    (catalog : Catalog)
    (fileSystem : FileSystem)
    (schema : Description.LabelledSchema) : List Validation :=
  catalog.examples.map (Validation.ofExample fileSystem schema)

/-- Load the schema, scan a root, and report on its examples. -/
def check
    (fileSystem : FileSystem)
    (extensions : PairExtensions)
    (root : Path)
    (schemaPath : Option Path) :
    Except CheckFault Report :=
  match Description.LabelledSchema.resolve fileSystem schemaPath with
  | .error fault => .error (.schema fault)
  | .ok schema =>
      match scan fileSystem extensions root with
      | .error fault => .error (.root fault)
      | .ok catalog =>
          .ok (Report.ofValidations catalog
            (catalog.validations fileSystem schema))

end Catalog

end Eisen
