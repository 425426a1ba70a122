import Eisen.Catalog.Report
import Eisen.Proofs.Catalog.Scan
import Eisen.Proofs.Conversion.Runs
import Eisen.Proofs.Description.Wording
import Eisen.Proofs.Script.Wording

namespace Eisen

/-!
# Status lines of reports

A report in words has a line for every example that starts with its status. The
findings about the example follow, each on a line of its own unless its message
has line feeds. What stands behind such a line feed can look like the line of an
example. A description can put it there, but no script can.
-/

open Text

/-! Lines that start with a status. -/

namespace Report

/-- The lines of examples start with one of these. -/
def statusLabels : List String :=
  ["PASS  ", "FAIL  "]

/-- Whether a line starts with a status. -/
def isStatusLine (line : String) : Bool :=
  statusLabels.any fun label => label.toList.isPrefixOf line.toList

/-- The lines of a text that start with a status. -/
def statusLines (text : String) : List String :=
  (Text.lines text).filter isStatusLine

/-- A line that begins with a label is a status line. -/
theorem isStatusLine_append
    {label : String}
    (isLabel : label ∈ statusLabels)
    (name : String) :
    isStatusLine (label ++ name) = true := by
  refine List.any_eq_true.mpr ⟨label, isLabel, ?_⟩
  rw [String.toList_append, List.isPrefixOf_iff_prefix]
  exact List.prefix_append _ _

/-- A status starts with a letter of its own. -/
theorem not_isStatusLine_of_head
    {line : String}
    {first : Char}
    {rest : List Char}
    (form : line.toList = first :: rest)
    (noPass : first ≠ 'P')
    (noFail : first ≠ 'F') :
    isStatusLine line = false := by
  simp [isStatusLine, statusLabels, form, List.isPrefixOf, Ne.symm noPass,
    Ne.symm noFail]

theorem not_isStatusLine_finding (text : String) :
    isStatusLine ("      - " ++ text) = false :=
  not_isStatusLine_of_head (by rw [String.toList_append]; rfl)
    (by decide) (by decide)

theorem not_isStatusLine_summaryLine (report : Report) :
    isStatusLine report.summaryLine = false := by
  obtain ⟨first, rest, digits⟩ := List.exists_cons_of_ne_nil
    (Nat.toDigits_ne_nil (n := report.total) (b := 10))
  have isDigit : first.isDigit = true :=
    Nat.isDigit_of_mem_toDigits (by decide) (by decide)
      (digits ▸ List.mem_cons_self)
  have form : ∃ behind, report.summaryLine.toList = first :: behind := by
    simp [summaryLine, Nat.toString_eq_repr, Nat.toList_repr, digits]
  obtain ⟨behind, form⟩ := form
  refine not_isStatusLine_of_head form ?_ ?_
  · rintro rfl
    cases isDigit
  · rintro rfl
    cases isDigit

/--
Behind the line of an example only later lines of its findings can
start with a status.
-/
theorem filter_itemLines
    {item : ReportItem}
    (named : IsOneLine item.name) :
    ((itemLines item).flatMap Text.lines).filter isStatusLine =
      ((if item.passed then "PASS  " else "FAIL  ") ++ item.name) ::
        (item.discrepancies.flatMap laterLines).filter isStatusLine := by
  have isLabel :
      (if item.passed then "PASS  " else "FAIL  ") ∈ statusLabels := by
    split <;> simp [statusLabels]
  have plainLabel : ∀ label ∈ statusLabels, IsOneLine label := by decide
  have plain := (isOneLine_append _ _).mpr ⟨plainLabel _ isLabel, named⟩
  rw [itemLines, List.flatMap_cons, lines_of_isOneLine plain,
    List.singleton_append,
    List.filter_cons_of_pos (isStatusLine_append isLabel _), List.flatMap_map,
    List.filter_flatMap, List.filter_flatMap]
  congr 2
  funext finding
  obtain ⟨first, form⟩ :=
    exists_lines_append (isOneLine_literal rfl : IsOneLine "      - ") finding
  rw [form, List.filter_cons_of_neg (by simp [not_isStatusLine_finding])]

/--
The status lines of a report are those of its examples and those
that findings add.
-/
theorem statusLines_render
    (report : Report)
    (rooted : IsOneLine report.root)
    (named : ∀ item ∈ report.items, IsOneLine item.name) :
    statusLines (report.render .text) =
      report.items.flatMap fun item =>
        ((if item.passed then "PASS  " else "FAIL  ") ++ item.name) ::
          (item.discrepancies.flatMap laterLines).filter isStatusLine := by
  have plainSummary : IsOneLine report.summaryLine := by
    simp only [summaryLine, isOneLine_append, isOneLine_toString, rooted,
      true_and, and_true]
    and_intros <;> exact isOneLine_literal rfl
  have noSummary : [report.summaryLine].filter isStatusLine = [] := by
    rw [List.filter_singleton, not_isStatusLine_summaryLine]
    rfl
  have noEnd : [""].filter isStatusLine = [] := by decide
  rw [statusLines, render, lines_join_ended, lines, List.flatMap_append,
    List.flatMap_singleton, lines_of_isOneLine plainSummary, List.filter_append,
    List.filter_append, noSummary, noEnd, List.append_nil, List.append_nil,
    List.flatMap_assoc, List.filter_flatMap]
  exact List.flatMap_congr fun item member =>
    filter_itemLines (named item member)

end Report

namespace Validation

/-- The line of an example in a report. -/
def statusLine (validation : Validation) : String :=
  (if validation.passed then "PASS  " else "FAIL  ") ++ validation.subject.name

/-- The lines behind line feeds of the findings that start with a status. -/
def forgedLines (validation : Validation) : List String :=
  (validation.discrepancies.flatMap fun finding =>
    laterLines finding.message).filter
    Report.isStatusLine

/-- Findings with messages of one line forge no status line. -/
theorem forgedLines_eq_nil
    {validation : Validation}
    (plain : ∀ finding ∈ validation.discrepancies, IsOneLine finding.message) :
    validation.forgedLines = [] := by
  have noLater : (validation.discrepancies.flatMap fun finding =>
      laterLines finding.message) = [] := by
    rw [List.flatMap_eq_nil_iff]
    intro finding member
    rw [laterLines, lines_of_isOneLine (plain finding member)]
    rfl
  rw [forgedLines, noLater, List.filter_nil]

/-! Findings in one line. -/

/--
The rule set of a script is one of one line, or the script is
refused in one line.
-/
theorem scriptRules_inOneLine (fileText : Except Storage.Fault String) :
    FailsInOneLine Discrepancy.message RuleSet.IsOneLine
      (scriptRules fileText) := by
  cases fileText with
  | error fault =>
      refine Discrepancy.isOneLine_message (List.forall_mem_singleton.mpr ?_)
      exact (isOneLine_append _ _).mpr
        ⟨isOneLine_literal rfl, fault.isOneLine_message⟩
  | ok source =>
      cases read : Script.ofSource source with
      | error fault =>
          rw [scriptRules, RuleSet.ofSource, read]
          exact Discrepancy.isOneLine_message
            (List.forall_mem_singleton.mpr (Script.isOneLine_of_ofSource read))
      | ok script =>
          rw [scriptRules, RuleSet.ofSource, read]
          exact RuleSet.isOneLine_ofScript (Script.isSpelled_of_ofSource read)

/--
Descriptions whose texts have no line ends are read or refused in one line.
-/
theorem dataRules_inOneLine
    {schema : Description.LabelledSchema}
    (shown : schema.document.IsOneLine)
    {fileText : Except Storage.Fault String}
    (plain :
      ∀ content, fileText = .ok content → Description.HoldsOneLine content) :
    FailsInOneLine Discrepancy.message RuleSet.IsOneLine
      (dataRules schema fileText) := by
  cases fileText with
  | error fault =>
      refine Discrepancy.isOneLine_message (List.forall_mem_singleton.mpr ?_)
      exact (isOneLine_append _ _).mpr
        ⟨isOneLine_literal rfl, fault.isOneLine_message⟩
  | ok content =>
      have answer := Description.read_inOneLine shown (plain content rfl)
      rw [dataRules, Description.ofFileText]
      cases read : Description.read schema content with
      | error fault =>
          exact Discrepancy.isOneLine_message
            (List.forall_mem_singleton.mpr (answer.isOneLine read))
      | ok description => exact answer.holds read

section

variable {rules : Except Discrepancy RuleSet}
  (answer : FailsInOneLine Discrepancy.message RuleSet.IsOneLine rules)
include answer

theorem malformed_isOneLine :
    ∀ finding ∈ malformed rules, IsOneLine finding.message := by
  cases rules with
  | error finding => exact List.forall_mem_singleton.mpr answer
  | ok ruleSet => exact List.forall_mem_nil _

/-- Undefined references are reported in one line each. -/
theorem references_isOneLine (side : Side) :
    ∀ finding ∈ references side rules, IsOneLine finding.message := by
  cases rules with
  | error finding => exact List.forall_mem_nil _
  | ok ruleSet => exact RuleSet.undefinedReferences_isOneLine answer side

/--
Differences of two rule sets without line ends are reported in one line each.
-/
theorem comparison_isOneLine
    {others : Except Discrepancy RuleSet}
    (other : FailsInOneLine Discrepancy.message RuleSet.IsOneLine others) :
    ∀ finding ∈ comparison rules others, IsOneLine finding.message := by
  cases rules with
  | error finding => exact List.forall_mem_nil _
  | ok script =>
      cases others with
      | error finding => exact List.forall_mem_nil _
      | ok data => exact RuleSet.differences_isOneLine answer other

end

/--
Whatever a script holds, all findings about a pair are worded in one line.
-/
theorem pairFindings_isOneLine
    {schema : Description.LabelledSchema}
    (shown : schema.document.IsOneLine)
    (scriptText : Except Storage.Fault String)
    {dataText : Except Storage.Fault String}
    (plain :
      ∀ content, dataText = .ok content → Description.HoldsOneLine content) :
    ∀ finding ∈ pairFindings schema scriptText dataText,
      IsOneLine finding.message := by
  have script := scriptRules_inOneLine scriptText
  have data := dataRules_inOneLine shown plain
  simp only [pairFindings, List.forall_mem_append]
  exact ⟨⟨⟨⟨malformed_isOneLine script, malformed_isOneLine data⟩,
    references_isOneLine script .script⟩, references_isOneLine data .data⟩,
    comparison_isOneLine script data⟩

/--
An example whose description has no line ends gets findings of one line each.
-/
theorem ofExample_isOneLine
    {fileSystem : FileSystem}
    {schema : Description.LabelledSchema}
    (shown : schema.document.IsOneLine)
    {pair : Example}
    (plain :
      ∀ path ∈ pair.data, ∀ content, fileSystem.readText path = .ok content →
      Description.HoldsOneLine content) :
    ∀ finding ∈ (ofExample fileSystem schema pair).discrepancies,
      IsOneLine finding.message := by
  obtain ⟨name, script?, data?⟩ := pair
  cases data? with
  | some data =>
      cases script? with
      | some script => exact pairFindings_isOneLine shown _ (plain data rfl)
      | none => exact List.forall_mem_singleton.mpr (isOneLine_literal rfl)
  | none =>
      cases script? with
      | some script =>
          exact List.forall_mem_singleton.mpr (isOneLine_literal rfl)
      | none => exact List.forall_mem_nil _

end Validation

/-! Names and roots of one line. -/

/-- All names in a file system are one line each. -/
def FileSystem.IsNamedInOneLine (fileSystem : FileSystem) : Prop :=
  ∀ entry ∈ fileSystem.entries, ∀ name ∈ entry.1, IsOneLine name

instance (fileSystem : FileSystem) : Decidable fileSystem.IsNamedInOneLine :=
  inferInstanceAs
    (Decidable (∀ entry ∈ fileSystem.entries, ∀ name ∈ entry.1, IsOneLine name))

namespace Catalog

section

variable {fileSystem : FileSystem}
  (tree : fileSystem.IsTree)
  (named : fileSystem.IsNamedInOneLine)
include tree named

/-- No name on the way to an entry has a line end. -/
theorem isOneLine_of_entry?
    {location : Storage.Location}
    (isThere : (fileSystem.entry? location).isSome = true)
    {name : String}
    (inLocation : name ∈ location) :
    IsOneLine name := by
  obtain ⟨entry, found⟩ := Option.isSome_iff_exists.mp isThere
  have below : location ≠ [] := List.ne_nil_of_mem inLocation
  exact named _ ((FileSystem.entry?_eq_some_iff_mem tree below).mp found)
    name inLocation

/-- A path to an entry is written with the names of entries. -/
theorem IsRoot.isOneLine_text
    {root : Path}
    {directory : Storage.Location}
    (isRoot : IsRoot fileSystem root directory) :
    IsOneLine root.text := by
  obtain ⟨-, leads⟩ := FileSystem.location_eq_ok_iff.mp isRoot.located
  have each (segment : String) (member : segment ∈ root.segments) :
      IsOneLine segment := by
    rcases leads.segment_cases
      (Option.isSome_of_eq_some isRoot.isDirectory) member with
      isFiller | rfl | ⟨folder, isThere⟩
    · rw [Path.isFiller, Bool.or_eq_true, beq_iff_eq, beq_iff_eq] at isFiller
      rcases isFiller with rfl | rfl <;> exact isOneLine_literal rfl
    · exact isOneLine_literal rfl
    · exact isOneLine_of_entry? tree named isThere
        (List.mem_append_right _ List.mem_cons_self)
  refine (isOneLine_append _ _).mpr
    ⟨?_, isOneLine_intercalate _ (isOneLine_literal rfl) each⟩
  split <;> exact isOneLine_literal rfl

/-- Examples have titles without line ends. -/
theorem IsHalf.isOneLine_title
    {extensions : PairExtensions}
    {directory : Storage.Location}
    {side : Side}
    {spot : Spot}
    (isHalf : IsHalf fileSystem extensions directory side spot) :
    IsOneLine spot.title := by
  obtain ⟨content, isFile⟩ := isHalf.isVisible.isFile
  have each (name : String) (member : name ∈ spot.names) : IsOneLine name :=
    isOneLine_of_entry? tree named (Option.isSome_of_eq_some isFile)
      (List.mem_append_right _ member)
  rw [Spot.names, List.forall_mem_append, List.forall_mem_singleton] at each
  have stem :=
    ((isOneLine_append _ _).mp ((isOneLine_append _ _).mp each.2).1).1
  refine isOneLine_intercalate _ (isOneLine_literal rfl) ?_
  exact List.forall_mem_append.mpr ⟨each.1, List.forall_mem_singleton.mpr stem⟩

end

/-! Reports of checks. -/

/-- Nothing is added to a list exactly if it stays as long as it is. -/
theorem flatMap_cons_eq_map_iff
    {α β : Type}
    (main : α → β)
    (added : α → List β)
    (items : List α) :
    (items.flatMap fun item => main item :: added item) = items.map main ↔
      ∀ item ∈ items, added item = [] := by
  have length : (items.flatMap fun item => main item :: added item).length =
      (items.map main).length + (items.flatMap added).length := by
    induction items with
    | nil => rfl
    | cons item rest inductionHypothesis =>
        simp only [List.flatMap_cons, List.map_cons, List.length_append,
          List.length_cons, inductionHypothesis]
        omega
  constructor
  · intro same
    rw [same] at length
    rw [← List.flatMap_eq_nil_iff, ← List.length_eq_zero_iff]
    omega
  · intro nothing
    rw [List.map_eq_flatMap]
    exact List.flatMap_congr fun item member => by rw [nothing item member]

/--
A report has the status line of each example, with the lines that its findings
forge behind it.
-/
theorem statusLines_ofValidations
    {catalog : Catalog}
    (rooted : IsOneLine catalog.root.text)
    {validations : List Validation}
    (named : ∀ validation ∈ validations, IsOneLine validation.subject.name) :
    Report.statusLines
      ((Report.ofValidations catalog validations).render .text) =
      validations.flatMap fun validation =>
        validation.statusLine :: validation.forgedLines := by
  have items : ∀ item ∈ (Report.ofValidations catalog validations).items,
      IsOneLine item.name :=
    List.forall_mem_map.mpr named
  rw [Report.statusLines_render
    (Report.ofValidations catalog validations) rooted items,
    Report.ofValidations, List.flatMap_map]
  refine List.flatMap_congr fun validation _ => ?_
  rw [Validation.statusLine, Validation.forgedLines, List.flatMap_map,
    ReportItem.passed, List.isEmpty_map, Validation.passed]

/--
A report in words has the status lines of all examples in order, and behind
that of an example only what its findings forge. So the status lines are
exactly those of the examples if and only if nothing is forged. No script
forges a line, and without a schema of its own, or with one that shows texts of
one line, a description does not unless one of its texts or names of members
has a line feed.
-/
theorem check_prints_status_lines_unless_forged
    {fileSystem : FileSystem}
    (tree : fileSystem.IsTree)
    (named : fileSystem.IsNamedInOneLine)
    {script data : String}
    {extensions : PairExtensions}
    (accepted : PairExtensions.ofTexts script data = .ok extensions)
    {root : String}
    (isDirectory : fileSystem.isDirectory (Path.ofText root) = true)
    {schemaPath : Option Path}
    {schema : Description.LabelledSchema}
    (usable :
      Description.LabelledSchema.resolve fileSystem schemaPath = .ok schema) :
    ∃ catalog report,
      scan fileSystem extensions (Path.ofText root) = .ok catalog ∧
        check fileSystem extensions (Path.ofText root) schemaPath = .ok report ∧
          Report.statusLines (report.render .text) =
            ((catalog.validations fileSystem schema).flatMap fun validation =>
              validation.statusLine :: validation.forgedLines) ∧
          (Report.statusLines (report.render .text) =
              (catalog.validations fileSystem schema).map
                Validation.statusLine ↔
            ∀ validation ∈ catalog.validations fileSystem schema,
              validation.forgedLines = []) ∧
          (schemaPath = none ∨ schema.document.IsOneLine →
            ∀ pair ∈ catalog.examples,
              (∀ path ∈ pair.data, ∀ content,
                fileSystem.readText path = .ok content →
                Description.HoldsOneLine content) →
              (Validation.ofExample fileSystem schema pair).forgedLines =
                []) := by
  obtain ⟨directory, isRoot⟩ := exists_isRoot isDirectory
  obtain ⟨catalog, scanned, sameRoot, -, members⟩ :=
    exists_scan tree isRoot extensions
  have checked : check fileSystem extensions (Path.ofText root) schemaPath =
      .ok (Report.ofValidations catalog
        (catalog.validations fileSystem schema)) := by
    rw [check, usable, scanned]
  have rooted : IsOneLine catalog.root.text := by
    rw [sameRoot]
    exact isRoot.isOneLine_text tree named
  have plainNames : ∀ validation ∈ catalog.validations fileSystem schema,
      IsOneLine validation.subject.name := by
    refine List.forall_mem_map.mpr fun pair member => ?_
    obtain ⟨side, spot, isHalf, isName, -⟩ :=
      exists_half_of_mem_paired tree accepted isRoot ((members pair).mp member)
    exact isName ▸ isHalf.isOneLine_title tree named
  have printed := statusLines_ofValidations rooted plainNames
  refine ⟨catalog, _, scanned, checked, printed, ?_, ?_⟩
  · rw [printed]
    exact flatMap_cons_eq_map_iff _ _ _
  · intro shown pair _ plain
    have document : schema.document.IsOneLine := by
      rcases shown with rfl | shown
      · cases usable
        exact Description.isOneLine_embedded
      · exact shown
    exact Validation.forgedLines_eq_nil
      (Validation.ofExample_isOneLine document plain)

/-- A description whose depth limit has a second line. -/
def forgingContent : String :=
  "\x7b\"max_depth\":\"1\\nPASS  b\",\"rules\":[\x7b\"name\":\"entry\"," ++
    "\"calls\":[\x7b\"shape\":\"box\"\x7d]\x7d]\x7d"

/--
An example whose description forges a line, and one whose
description is refused.
-/
def forging : FileSystem where
  entries :=
    [(["root"], .directory), (["root", "a.es"], .file (.ofText "box")),
      (["root", "a.json"], .file (.ofText forgingContent)),
      (["root", "b.es"], .file (.ofText "box")),
      (["root", "b.json"], .file (.ofText "null"))]
  working := []

theorem forging_isTree : forging.IsTree := by
  decide

theorem isRoot_forging : IsRoot forging (Path.ofText "root") ["root"] :=
  Conversion.isRoot_of_entry rfl rfl

/-- Both examples have both halves. -/
def forgingExample (name : String) : Example where
  name := name
  script := some ⟨false, ["root", name ++ ".es"]⟩
  data := some ⟨false, ["root", name ++ ".json"]⟩

/-- A scan finds both examples. -/
theorem scan_forging :
    scan forging .default (Path.ofText "root") =
      .ok ⟨Path.ofText "root", [forgingExample "a", forgingExample "b"]⟩ := by
  have visible : forging.entries.filterMap (Storage.visibleFile? ["root"]) =
      [["a.es"], ["a.json"], ["b.es"], ["b.json"]] := by
    decide
  have names : forging.visibleNames ["root"] =
      [["a.es"], ["a.json"], ["b.es"], ["b.json"]] := by
    rw [FileSystem.visibleNames, visible]
    exact List.mergeSort_of_pairwise (by decide)
  have pairs :
      paired (halvesBelow forging .default (Path.ofText "root") ["root"]) =
      [forgingExample "a", forgingExample "b"] := by
    rw [halvesBelow, names]
    decide
  have sorted :
      Text.sortBy Example.name [forgingExample "a", forgingExample "b"] =
      [forgingExample "a", forgingExample "b"] :=
    List.mergeSort_of_pairwise (by decide)
  rw [scan_eq_ok forging_isTree isRoot_forging, ofHalves, ofExamples,
    pairs, sorted]

/-- Files of the root are read by their names. -/
theorem readText_forging
    {name : String}
    (isStep : forging.IsStep ["root"] name)
    {text : String}
    (isFile : forging.entry? ["root", name] = some (.file (.ofText text)))
    (accepted :
      FileSystem.pathFault? (Path.mk false ["root", name]).text = none) :
    forging.readText ⟨false, ["root", name]⟩ = .ok text := by
  have toRoot : forging.IsStep [] "root" :=
    ⟨by decide, by decide, by decide, by decide⟩
  have located :
      forging.location .use ⟨false, ["root", name]⟩ = .ok ["root", name] := by
    refine FileSystem.location_eq_ok_iff.mpr ⟨accepted, ?_⟩
    exact .entry toRoot (FileSystem.looksUp_use _) rfl (by simp)
      (.entry isStep (FileSystem.looksUp_use _) isFile (by simp) .here)
  rw [FileSystem.readText, FileSystem.content, located]
  simp only [isFile, Storage.text?_ofText]

/-- The depth limit of the description is shown as it stands. -/
theorem ofExample_forging_first :
    Validation.ofExample forging .embedded (forgingExample "a") =
      ⟨forgingExample "a", [.maxDepthMismatch "1000" "1\nPASS  b"]⟩ := by
  have script : forging.readText ⟨false, ["root", "a.es"]⟩ = .ok "box" :=
    readText_forging
      ⟨by decide, by decide, by decide, by decide⟩ rfl (by decide)
  have data :
      forging.readText ⟨false, ["root", "a.json"]⟩ = .ok forgingContent :=
    readText_forging
      ⟨by decide, by decide, by decide, by decide⟩ rfl (by decide)
  have findings :
      Validation.pairFindings .embedded (.ok "box") (.ok forgingContent) =
      [.maxDepthMismatch "1000" "1\nPASS  b"] := by
    decide +kernel
  rw [← script, ← data] at findings
  exact congrArg (Validation.mk (forgingExample "a")) findings

theorem readText_forging_null :
    forging.readText ⟨false, ["root", "b.json"]⟩ = .ok "null" :=
  readText_forging ⟨by decide, by decide, by decide, by decide⟩ rfl (by decide)

/-- The description of the second example is refused. -/
theorem ofExample_forging_second :
    Validation.ofExample forging .embedded (forgingExample "b") =
      ⟨forgingExample "b",
        [.malformedData
            "schema violation: null is not of type \"object\""]⟩ := by
  have script : forging.readText ⟨false, ["root", "b.es"]⟩ = .ok "box" :=
    readText_forging
      ⟨by decide, by decide, by decide, by decide⟩ rfl (by decide)
  have findings : Validation.pairFindings .embedded (.ok "box") (.ok "null") =
      [.malformedData "schema violation: null is not of type \"object\""] := by
    decide +kernel
  rw [← script, ← readText_forging_null] at findings
  exact congrArg (Validation.mk (forgingExample "b")) findings

/--
The description of `a` writes a line for `b` in front of the one that `b` has.
-/
theorem check_prints_forged_status_line :
    forging.IsTree ∧ forging.IsNamedInOneLine ∧
      PairExtensions.ofTexts "es" "json" = .ok .default ∧
      forging.isDirectory (Path.ofText "root") = true ∧
      Description.LabelledSchema.resolve forging none = .ok .embedded ∧
      ∃ catalog report,
        scan forging .default (Path.ofText "root") = .ok catalog ∧
          check forging .default (Path.ofText "root") none = .ok report ∧
            (catalog.validations forging .embedded).map Validation.statusLine =
              ["FAIL  a", "FAIL  b"] ∧
            Report.statusLines (report.render .text) =
              ["FAIL  a", "PASS  b", "FAIL  b"] ∧
            (Validation.ofExample forging .embedded
              (forgingExample "b")).forgedLines = [] := by
  have named : forging.IsNamedInOneLine := by decide
  have isDirectory := Conversion.isDirectory_of_isRoot isRoot_forging
  have usable :
      Description.LabelledSchema.resolve forging none = .ok .embedded := rfl
  obtain ⟨catalog, report, scanned, checked, printed, -, unforged⟩ :=
    check_prints_status_lines_unless_forged forging_isTree named ofTexts_default
      isDirectory usable
  obtain rfl := Except.ok.inj (scan_forging.symm.trans scanned)
  have validations :
      validations ⟨Path.ofText "root", [forgingExample "a", forgingExample "b"]⟩
      forging .embedded =
        [⟨forgingExample "a", [.maxDepthMismatch "1000" "1\nPASS  b"]⟩,
        ⟨forgingExample "b",
          [.malformedData
              "schema violation: null is not of type \"object\""]⟩] := by
    rw [Catalog.validations, List.map_cons, List.map_singleton,
      ofExample_forging_first, ofExample_forging_second]
  have plain (value : Json) (isRead : Json.read "null" = .ok value) :
      value.IsOneLine := by
    have isNull : Json.read "null" = .ok .null := by with_unfolding_all rfl
    obtain rfl := Except.ok.inj (isNull.symm.trans isRead)
    exact .null
  refine ⟨forging_isTree, named, ofTexts_default, isDirectory, usable, _,
    report, scanned, checked, ?_, ?_, ?_⟩
  · rw [validations]
    decide
  · rw [printed, validations]
    decide
  · refine unforged (.inl rfl) _ (List.mem_cons_of_mem _ List.mem_cons_self) ?_
    intro path isPath content isText
    cases isPath
    obtain rfl := Except.ok.inj (readText_forging_null.symm.trans isText)
    exact plain

end Catalog

end Eisen
