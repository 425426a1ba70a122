import Eisen.Command.Convert
import Eisen.Proofs.Conversion.Scripts
import Eisen.Proofs.Json.RoundTrip
import Eisen.Proofs.RuleSet.Markup
import Eisen.Proofs.Script.Covering
import Eisen.Proofs.Storage.Changes

namespace Eisen

/-!
# What a run over a directory does to files

Converting a file makes directories and writes one file, and a run does so for
one script after the other. A file that was there before the run is kept
unless the output of a converted script leads to it; then it holds the
converted text of a script.
-/

open Eisen.Path Storage

/-- A name that is joined to a path is its last segment. -/
theorem Path.getLast?_join_ofNames
    (path : Path)
    {name : String}
    (ink : name ≠ "") :
    (path.join (ofNames [name])).segments.getLast? = some name := by
  by_cases isEmpty : path = empty
  · rw [isEmpty, empty_join]
    rfl
  · rw [join_of_ne_empty rfl isEmpty]
    simp [ofSegments, ofNames, ink, List.append_eq_singleton_iff]

theorem Storage.text?_ofText (text : String) :
    (Content.ofText text).text? = some text := by
  simp [Content.text?, Content.ofText, Text.symbols, Text.ofSymbols?,
    List.filterMap_map, Function.comp_def]

namespace Conversion

/-! One script. -/

/-- A converted text renders the rule set of the script that is read. -/
theorem exists_ruleSet_of_convertedText
    {fileSystem : FileSystem}
    {input : Path}
    {format : Format}
    {text : String}
    (isConverted : convertedText fileSystem input format = .ok text) :
    ∃ source ruleSet,
      fileSystem.readText input = .ok source ∧
        RuleSet.ofSource source = .ok ruleSet ∧
          text = render input.stem? ruleSet format := by
  unfold convertedText at isConverted
  split at isConverted
  · cases isConverted
  · next source isRead =>
      cases accepted : RuleSet.ofSource source with
      | error fault =>
          rw [convert, accepted] at isConverted
          cases isConverted
      | ok ruleSet =>
          rw [convert, accepted] at isConverted
          exact ⟨source, ruleSet, isRead, accepted,
            (Except.ok.inj isConverted).symm⟩

/--
Directories were put at vacant locations for the output directory,
if one is named.
-/
structure Prepares
    (earlier : FileSystem)
    (directory : Option Path)
    (later : FileSystem) : Prop where
  growth : earlier.Grows later
  made : ∀ location,
    earlier.entry? location = none → later.entry? location = some .directory →
    ∃ named ∈ directory, ∃ above : Path,
      above.IsAbove named ∧ later.location .use above = .ok location

theorem Prepares.refl
    (fileSystem : FileSystem)
    (directory : Option Path) :
    Prepares fileSystem directory fileSystem := by
  refine ⟨.refl fileSystem, fun location isVacant isDirectory => ?_⟩
  rw [isVacant] at isDirectory
  cases isDirectory

/-- Preparing an output directory only makes directories. -/
theorem prepares_prepare
    (fileSystem : FileSystem)
    (directory : Option Path) :
    Prepares fileSystem directory (prepare fileSystem directory).1 := by
  cases directory with
  | none => exact .refl fileSystem none
  | some directory =>
      obtain ⟨growth, made⟩ :=
        FileSystem.prepares_makeDirectories fileSystem directory
      exact ⟨growth, fun location isVacant isDirectory =>
        ⟨directory, rfl, made location isVacant isDirectory⟩⟩

/--
What converting a file comes to: more directories, and a file if nothing fails.
-/
inductive Step
    (fileSystem : FileSystem)
    (input : Path)
    (directory : Option Path)
    (format : Format) :
    FileSystem × Except Fault Path → Prop
  | failed
      {next : FileSystem}
      {fault : Fault}
      (prepares : Prepares fileSystem directory next) :
      Step fileSystem input directory format (next, .error fault)
  | written
      {prepared next : FileSystem}
      {text : String}
      {location : Location}
      (isConverted : convertedText fileSystem input format = .ok text)
      (prepares : Prepares fileSystem directory prepared)
      (writes : prepared.Writes (outputPath input directory format)
        (.ofText text) location next) :
      Step fileSystem input directory format
        (next, .ok (outputPath input directory format))

/-- The conversion of one file is a step. -/
theorem step_convertFile
    {fileSystem : FileSystem}
    (nested : fileSystem.IsNested)
    (input : Path)
    (directory : Option Path)
    (format : Format) :
    Step fileSystem input directory format
      (convertFile fileSystem input directory format) := by
  have prepares := prepares_prepare fileSystem directory
  unfold convertFile
  split
  · exact .failed (.refl fileSystem directory)
  · next text isConverted =>
      dsimp only
      split
      · next prepared fault isPrepared =>
          rw [isPrepared] at prepares
          exact .failed prepares
      · next prepared isPrepared =>
          rw [isPrepared] at prepares
          split
          · exact .failed prepares
          · next next written =>
              obtain ⟨location, writes⟩ :=
                FileSystem.exists_writes (prepares.growth.nested nested) written
              exact .written isConverted prepares writes

/-! All scripts. -/

/-- The output of a converted script leads to a location. -/
def IsOverwritten
    (final : FileSystem)
    (results : List Converted)
    (location : Location) : Prop :=
  ∃ converted ∈ results, ∃ output,
    converted.result = .ok output ∧ final.location .use output = .ok location

/-- What has become of a file: it is kept, or it holds a converted script. -/
structure Fate
    (final : FileSystem)
    (results : List Converted)
    (format : Format)
    (location : Location)
    (content : Content) : Prop where
  kept : ¬ IsOverwritten final results location →
    final.entry? location = some (.file content)
  replaced : IsOverwritten final results location →
    ∃ title ruleSet, final.entry? location =
      some (.file (.ofText (render title ruleSet format)))

/-- What a run comes to. -/
structure Run
    (root : Path)
    (directory : Option Path)
    (format : Format)
    (fileSystem : FileSystem)
    (scripts : List Path)
    (outcome : FileSystem × List Converted) : Prop where
  growth : fileSystem.Extends outcome.1
  outputs : ∀ converted ∈ outcome.2, converted.script ∈ scripts ∧
    ∀ output, converted.result = .ok output →
      output = outputOf root directory format converted.script
  fate : ∀ location content, fileSystem.entry? location = some (.file content) →
    Fate outcome.1 outcome.2 format location content

/-- A location is overwritten by the first conversion or by a later one. -/
theorem isOverwritten_cons_iff
    {final : FileSystem}
    {first : Converted}
    {others : List Converted}
    {location : Location} :
    IsOverwritten final (first :: others) location ↔
      (∃ output, first.result = .ok output ∧
        final.location .use output = .ok location) ∨
        IsOverwritten final others location := by
  simp [IsOverwritten]

namespace Fate

variable
  {final : FileSystem}
  {others : List Converted}
  {format : Format}
  {location : Location}
  {content : Content}

/-- A result that leads elsewhere, or nowhere, does not matter. -/
theorem cons_of_elsewhere
    (fate : Fate final others format location content)
    {first : Converted}
    (elsewhere : ∀ output,
      first.result = .ok output → final.location .use output ≠ .ok location) :
    Fate final (first :: others) format location content := by
  have same : IsOverwritten final (first :: others) location ↔
      IsOverwritten final others location := by
    rw [isOverwritten_cons_iff]
    refine or_iff_right ?_
    rintro ⟨output, isOutput, located⟩
    exact elsewhere output isOutput located
  exact ⟨fun notOverwritten => fate.kept (mt same.mpr notOverwritten),
    fun isOverwritten => fate.replaced (same.mp isOverwritten)⟩

/--
A converted script that is written over the file may be replaced by
further ones only.
-/
theorem cons_of_written
    {title : Option String}
    {ruleSet : RuleSet}
    (fate :
      Fate final others format location (.ofText (render title ruleSet format)))
    {first : Converted}
    {output : Path}
    (isOutput : first.result = .ok output)
    (located : final.location .use output = .ok location) :
    Fate final (first :: others) format location content := by
  refine ⟨fun notOverwritten => ?_, fun _ => ?_⟩
  · exact absurd (isOverwritten_cons_iff.mpr (.inl ⟨output, isOutput, located⟩))
      notOverwritten
  · by_cases again : IsOverwritten final others location
    · exact fate.replaced again
    · exact ⟨title, ruleSet, fate.kept again⟩

end Fate

/--
Every conversion is of a script of the run and has the output of its script.
-/
theorem Run.outputs_cons
    {root : Path}
    {directory : Option Path}
    {format : Format}
    {fileSystem : FileSystem}
    {scripts : List Path}
    {outcome : FileSystem × List Converted}
    (run : Run root directory format fileSystem scripts outcome)
    {first : Converted}
    (isFirst : ∀ output, first.result = .ok output →
      output = outputOf root directory format first.script) :
    ∀ converted ∈ first :: outcome.2,
      converted.script ∈ first.script :: scripts ∧
      ∀ output, converted.result = .ok output →
        output = outputOf root directory format converted.script := by
  intro converted member
  rcases List.mem_cons.mp member with rfl | later
  · exact ⟨List.mem_cons_self, isFirst⟩
  · exact (run.outputs converted later).imp_left (List.mem_cons_of_mem _)

/-- The conversion of some files is a run. -/
theorem run_convertAll
    {fileSystem : FileSystem}
    (nested : fileSystem.IsNested)
    (root : Path)
    (directory : Option Path)
    (format : Format)
    (scripts : List Path) :
    Run root directory format fileSystem scripts
      (convertAll root directory format fileSystem scripts) := by
  induction scripts generalizing fileSystem with
  | nil =>
      refine ⟨.refl fileSystem, List.forall_mem_nil _,
        fun location content isFile =>
        ⟨fun _ => isFile, ?_⟩⟩
      rintro ⟨converted, member, -⟩
      cases member
  | cons script rest inductionHypothesis =>
      have step := step_convertFile nested script
        (directory.map fun output => outputDirectory root script output) format
      rw [convertAll]
      generalize convertFile fileSystem script _ format = outcome at step ⊢
      cases step with
      | failed prepares =>
          have growth := prepares.growth
          have run := inductionHypothesis (growth.nested nested)
          refine ⟨growth.toExtends.trans run.growth, ?_,
            fun location content isFile => ?_⟩
          · exact run.outputs_cons fun _ isOutput => by cases isOutput
          · have fate := run.fate location content (growth.entry?_eq isFile)
            exact fate.cons_of_elsewhere fun _ isOutput => by cases isOutput
      | @written prepared next text target isConverted prepares writes =>
          have growth := prepares.growth
          have run := inductionHypothesis writes.nested
          obtain ⟨laterContent, isFileLater⟩ :=
            run.growth.files _ _ writes.isFile
          have located :=
            FileSystem.location_use_of_extends (writes.growth.trans run.growth)
            writes.located isFileLater
          refine ⟨growth.toExtends.trans (writes.growth.trans run.growth), ?_,
            fun location content isFile => ?_⟩
          · exact run.outputs_cons fun _ isOutput =>
              (Except.ok.inj isOutput).symm
          · by_cases isTarget : location = target
            · subst isTarget
              obtain ⟨-, ruleSet, -, -, rfl⟩ :=
                exists_ruleSet_of_convertedText isConverted
              exact (run.fate location _ writes.isFile).cons_of_written rfl
                located
            · have isKept : next.entry? location = some (.file content) := by
                rw [writes.others location isTarget]
                exact growth.entry?_eq isFile
              refine (run.fate location content isKept).cons_of_elsewhere ?_
              intro output isOutput isHere
              obtain rfl := Except.ok.inj isOutput
              exact isTarget (Except.ok.inj (isHere.symm.trans located))

/-! Converted texts are no scripts. -/

/-- A script cannot hold the signs that outputs begin with. -/
theorem piece_eq_error
    (cursor : Script.Cursor)
    {first : Char}
    (isSign : first = '<' ∨ first = '"')
    (rest : List Char) :
    Script.piece cursor first rest =
      .error (.unexpectedCharacter cursor.place first) := by
  rcases isSign with rfl | rfl <;> rfl

/-- A description begins with a brace, a line end and a quote. -/
theorem exists_toList_fileText (description : Description) :
    ∃ rest, description.fileText.toList =
      '\x7b' :: '\n' :: ' ' :: ' ' :: '"' :: rest := by
  obtain ⟨⟨name, value⟩, others, isObject⟩ :
      ∃ member others, description.toJson = .object (member :: others) := by
    obtain ⟨title, source, ruleSet⟩ := description
    cases title <;> cases source <;> exact ⟨_, _, rfl⟩
  have opening : "\x7b".toList = ['\x7b'] := rfl
  have indentation : (Json.lineStart (0 + 1)).toList = ['\n', ' ', ' '] := rfl
  rw [Description.fileText, isObject, Json.indented, Json.indentedAt,
    Json.indentedMembers, String.toList_append, Json.toList_bracketed_cons,
    opening, indentation, String.toList_append, String.toList_append,
    Json.quote, String.toList_ofList]
  simp only [List.cons_append, List.nil_append]
  exact ⟨_, rfl⟩

/-- A converted text starts in a way in which no script goes on. -/
theorem ofSource_render_ne_ok
    (title : Option String)
    (ruleSet accepted : RuleSet)
    (format : Format) :
    RuleSet.ofSource (render title ruleSet format) ≠ .ok accepted := by
  suffices refused :
      ∃ fault, Script.tokens (render title ruleSet format) = .error fault by
    obtain ⟨fault, isFault⟩ := refused
    simp [RuleSet.ofSource, Script.ofSource, isFault]
  cases format with
  | xml =>
      obtain ⟨rest, form⟩ : ∃ rest, ruleSet.markup.toList = '<' :: rest := by
        rw [RuleSet.toList_markup]
        exact ⟨_, rfl⟩
      have stops := piece_eq_error .start (.inl rfl) rest
      rw [render, Script.tokens, form, Script.tokensFrom, stops]
      exact ⟨_, rfl⟩
  | json =>
      obtain ⟨rest, form⟩ :=
        exists_toList_fileText { title, source := none, ruleSet }
      have isBrace :
          Script.piece .start '\x7b' ('\n' :: ' ' :: ' ' :: '"' :: rest) =
          .ok (.ofLexeme .openBrace 0) := rfl
      have isGap (cursor : Script.Cursor) :
          Script.piece cursor '\n' (' ' :: ' ' :: '"' :: rest) =
            .ok (.gap 2) := rfl
      rw [render, Script.tokens, form, Script.tokensFrom_of_piece isBrace]
      change ∃ fault, (Script.tokensFrom
        _ ('\n' :: ' ' :: ' ' :: '"' :: rest)).map _ = .error fault
      rw [Script.tokensFrom_of_piece (isGap _)]
      change ∃ fault,
        ((Script.tokensFrom _ ('"' :: rest)).map _).map _ = .error fault
      rw [Script.tokensFrom, piece_eq_error _ (.inr rfl)]
      exact ⟨_, rfl⟩

/-! Scripts as sources. -/

/-- The output of a script has the name of the converted spot. -/
theorem getLast?_outputOf
    {spot : Catalog.Spot}
    {root : Path}
    (isMet : spot.IsMet)
    (written : root.IsWritten)
    (directory : Option Path)
    (format : Format) :
    (outputOf root directory format (spot.path root)).segments.getLast? =
      some ((converted spot format).stem ++ "." ++
        (converted spot format).suffix) := by
  rw [outputOf, outputPath, outputName_path isMet written]
  refine getLast?_join_ofNames _ fun noName => ?_
  have isLast := (isMet_converted isMet format).areNames _
    (List.mem_append_right (converted spot format).folder List.mem_cons_self)
  exact isLast.ink noName

/-- No link has the extension of outputs. -/
def LinksNoOutput
    (fileSystem : FileSystem)
    (format : Format) : Prop :=
  ∀ location target, fileSystem.entry? location = some (.link target) →
    ∀ stem, location.getLast? ≠ some (stem ++ "." ++ format.extension)

section

variable
  {fileSystem : FileSystem}
  {root : Path}
  {directory : Location}
  {extension : String}
  {output : Option Path}
  {format : Format}
  {scripts : List Path}
  {outcome : FileSystem × List Converted}

/-- Outputs with an extension of their own do not lead to scripts. -/
theorem not_isOverwritten
    (tree : fileSystem.IsTree)
    (isRoot : Catalog.IsRoot fileSystem root directory)
    (run : Run root output format fileSystem
      (scriptsBelow fileSystem root extension) outcome)
    (differ : Text.sameLetters extension format.extension = false)
    (linksNoOutput : LinksNoOutput fileSystem format)
    {spot : Catalog.Spot}
    (isScript : IsScript fileSystem directory extension spot) :
    ¬ IsOverwritten outcome.1 outcome.2 (directory ++ spot.names) := by
  rintro ⟨result, member, path, isOutput, located⟩
  obtain ⟨inScripts, form⟩ := run.outputs result member
  obtain ⟨other, isOther, isPath⟩ :=
    (mem_scriptsBelow_iff tree isRoot).mp inScripts
  have isMet := isScript.isMet tree
  have otherMet := isMet_converted (isOther.isMet tree) format
  -- The output ends in the name of an output, and so does the location it leads
  -- to.
  have isLast :=
    getLast?_outputOf (isOther.isMet tree) isRoot.written output format
  rw [← isPath, ← form path isOutput] at isLast
  have isName := otherMet.areNames _
    (List.mem_append_right (converted other format).folder List.mem_cons_self)
  have noLink (folder : Location) (target : Path) :
      FileSystem.entry? outcome.1
        (folder ++ [(converted other format).stem ++ "." ++
        (converted other format).suffix]) ≠ some (.link target) := by
    rw [Ne, run.growth.links, suffix_converted]
    exact fun isLink => linksNoOutput _ target isLink _ List.getLast?_concat
  obtain ⟨-, leads⟩ := FileSystem.location_eq_ok_iff.mp located
  have sameLast := leads.getLast?_eq (ofSegment?_of_isName isName) noLink isLast
  rw [Catalog.Spot.names, ← List.append_assoc, List.getLast?_concat,
    Option.some.injEq] at sameLast
  -- So the script has the extension of outputs.
  have sameSplit := congrArg splitName sameLast
  rw [isMet.splitName_last, otherMet.splitName_last, suffix_converted,
    Prod.mk.injEq, Option.some.injEq] at sameSplit
  have isExtension := isScript.extension
  rw [sameSplit.2, Text.sameLetters, beq_iff_eq] at isExtension
  rw [Text.sameLetters, isExtension, beq_self_eq_true] at differ
  cases differ

end

/--
A run over a directory keeps a script unless the output of a converted
script leads to it. What is written over a script is a converted text,
which is no script. Scripts are safe if outputs have another extension and
no link has theirs.
-/
theorem convertDirectory_keeps_scripts_unless_overwritten
    {fileSystem : FileSystem}
    (tree : fileSystem.IsTree)
    {settings : Command.ConvertSettings}
    {root : String}
    (isInput : settings.input = Path.ofText root)
    (isDirectory : fileSystem.isDirectory settings.input = true)
    (log : Log.Writer)
    (warnings : String) :
    let extension := PairExtensions.withoutDots settings.scriptExtension
    let final :=
      (Command.convertDirectory settings log warnings fileSystem).fileSystem
    ∃ directory scripts results,
      fileSystem.location .use settings.input = .ok directory ∧
        collect fileSystem settings.input extension = .ok scripts ∧
          convertAll settings.input settings.directory settings.format
            fileSystem scripts =
            (final, results) ∧
            ∀ script ∈ scripts, ∃ names content,
              script = settings.input.join (ofNames names) ∧
                fileSystem.entry? (directory ++ names) = some (.file content) ∧
                  Fate final results settings.format
                    (directory ++ names) content ∧
                    (∀ source ruleSet, content.text? = some source →
                      RuleSet.ofSource source = .ok ruleSet →
                        (final.entry? (directory ++ names) =
                          some (.file content) ↔
                          ¬ IsOverwritten final results (directory ++ names))) ∧
                      (Text.sameLetters extension
                        settings.format.extension = false →
                        LinksNoOutput fileSystem settings.format →
                          final.entry? (directory ++ names) =
                            some (.file content)) := by
  intro extension final
  rw [isInput] at isDirectory
  obtain ⟨directory, isRoot⟩ := Catalog.exists_isRoot isDirectory
  rw [← isInput] at isRoot
  have collected := collect_eq isRoot extension
  have run := run_convertAll tree.isNested settings.input settings.directory
    settings.format
    (scriptsBelow fileSystem settings.input extension)
  have isFinal :
      (convertAll settings.input settings.directory settings.format fileSystem
      (scriptsBelow fileSystem settings.input extension)).1 = final := by
    simp only [final, Command.convertDirectory]
    rw [collected]
  refine ⟨directory, _, _, isRoot.located, collected, Prod.ext isFinal rfl, ?_⟩
  intro script member
  obtain ⟨spot, isScript, rfl⟩ := (mem_scriptsBelow_iff tree isRoot).mp member
  obtain ⟨content, isFile⟩ := isScript.isVisible.isFile
  have fate := run.fate _ content isFile
  rw [isFinal] at fate
  refine ⟨spot.names, content, rfl, isFile, fate,
    fun source ruleSet isText accepted => ?_, fun differ linksNoOutput => ?_⟩
  · refine ⟨fun isKept isOverwritten => ?_, fate.kept⟩
    obtain ⟨title, written, isWritten⟩ := fate.replaced isOverwritten
    obtain rfl : content = .ofText (render title written settings.format) := by
      rw [isKept, Option.some.injEq, Entry.file.injEq] at isWritten
      exact isWritten
    obtain rfl := Option.some.inj ((text?_ofText _).symm.trans isText)
    exact ofSource_render_ne_ok title written ruleSet settings.format accepted
  · have safe := not_isOverwritten tree isRoot run differ linksNoOutput isScript
    rw [isFinal] at safe
    exact fate.kept safe

/-- A directory with a script that has the extension of descriptions. -/
def selfNamed : FileSystem where
  entries :=
    [(["root"], .directory), (["root", "a.json"], .file (.ofText "box"))]
  working := []

/--
Descriptions of the scripts with the extension of descriptions,
beside the scripts.
-/
def selfNamedSettings : Command.ConvertSettings where
  input := Path.ofText "root"
  format := .json
  directory := none
  toOutput := false
  scriptExtension := "json"
  isQuiet := true

theorem selfNamed_isTree : selfNamed.IsTree := by
  decide

theorem isRoot_selfNamed :
    Catalog.IsRoot selfNamed (Path.ofText "root") ["root"] :=
  isRoot_of_entry rfl rfl

/-- The output is written to the place of the script. -/
theorem location_selfNamed :
    selfNamed.location .write (Path.ofText "root/a.json") =
      .ok ["root", "a.json"] := by
  have form : Path.ofText "root/a.json" = ⟨false, ["root", "a.json"]⟩ := by
    decide
  have first : selfNamed.IsStep [] "root" :=
    ⟨by decide, by decide, by decide, by decide⟩
  have second : selfNamed.IsStep ["root"] "a.json" :=
    ⟨by decide, by decide, by decide, by decide⟩
  rw [form, FileSystem.location_eq_ok_iff]
  exact ⟨by decide, .entry first ⟨by simp, by simp⟩ rfl (by simp)
    (.entry second ⟨by simp, by simp⟩ rfl (by simp) .here)⟩

/-- The description is taken for a script. -/
theorem scriptsBelow_selfNamed :
    scriptsBelow selfNamed (Path.ofText "root") "json" =
      [Path.ofText "root/a.json"] := by
  have found : selfNamed.visibleNames ["root"] = [["a.json"]] := by
    have visible :
        selfNamed.entries.filterMap (visibleFile? ["root"]) = [["a.json"]] := by
      decide
    rw [FileSystem.visibleNames, visible, List.mergeSort_singleton]
  rw [scriptsBelow, Catalog.walk_eq isRoot_selfNamed, found]
  decide

theorem exists_ruleSet_of_box :
    ∃ ruleSet, RuleSet.ofSource "box" = .ok ruleSet := by
  have accepted : (RuleSet.ofSource "box").toOption.isSome = true := by
    decide +kernel
  cases isRuleSet : RuleSet.ofSource "box" with
  | error fault =>
      rw [isRuleSet] at accepted
      cases accepted
  | ok ruleSet => exact ⟨ruleSet, rfl⟩

/-- The conversion succeeds and names the script itself as its output. -/
theorem exists_convertFile_selfNamed :
    ∃ final, convertFile selfNamed (Path.ofText "root/a.json") none .json =
        (final, .ok (Path.ofText "root/a.json")) ∧
      final.location .use (Path.ofText "root/a.json") =
        .ok ["root", "a.json"] := by
  have output : outputPath (Path.ofText "root/a.json") none .json =
      Path.ofText "root/a.json" := by
    decide
  have isRead : selfNamed.readText (Path.ofText "root/a.json") = .ok "box" := by
    rw [FileSystem.readText, FileSystem.content,
      FileSystem.location_use_of_extends (.refl _) location_selfNamed rfl]
    rfl
  obtain ⟨text, isConverted⟩ :
      ∃ text, convertedText selfNamed (Path.ofText "root/a.json") .json =
        .ok text := by
    obtain ⟨ruleSet, accepted⟩ := exists_ruleSet_of_box
    rw [convertedText, isRead]
    simp only [convert, accepted]
    exact ⟨_, rfl⟩
  have written : selfNamed.write (Path.ofText "root/a.json") (.ofText text) =
      .ok (selfNamed.set ["root", "a.json"] (.file (.ofText text))) := by
    rw [FileSystem.write, location_selfNamed]
    rfl
  obtain ⟨location, writes⟩ :=
    FileSystem.exists_writes selfNamed_isTree.isNested written
  obtain rfl := Except.ok.inj (location_selfNamed.symm.trans writes.located)
  refine ⟨_, ?_, FileSystem.location_use_of_extends writes.growth writes.located
    writes.isFile⟩
  simp only [convertFile, isConverted, prepare, output, written]

/-- A script that is converted into itself is lost. -/
theorem convertDirectory_overwrites_selfNamed :
    selfNamed.IsTree ∧ selfNamedSettings.input = Path.ofText "root" ∧
      selfNamed.isDirectory selfNamedSettings.input = true ∧
        selfNamed.entry? ["root", "a.json"] = some (.file (.ofText "box")) ∧
          FileSystem.entry?
              (Command.convertDirectory selfNamedSettings
                ⟨⟨[], none⟩, .plain⟩ ""
                selfNamed).fileSystem ["root", "a.json"] ≠
                  some (.file (.ofText "box")) := by
  have isDirectory : selfNamed.isDirectory selfNamedSettings.input = true :=
    isDirectory_of_isRoot isRoot_selfNamed
  have isInput : selfNamedSettings.input = Path.ofText "root" := rfl
  refine ⟨selfNamed_isTree, isInput, isDirectory, rfl, fun isKept => ?_⟩
  obtain ⟨directory, scripts, results, located, collected, isRun, fates⟩ :=
    convertDirectory_keeps_scripts_unless_overwritten selfNamed_isTree
      isInput isDirectory
      ⟨⟨[], none⟩, .plain⟩ ""
  obtain rfl := Except.ok.inj (isRoot_selfNamed.located.symm.trans located)
  have isExtension : PairExtensions.withoutDots
      selfNamedSettings.scriptExtension = "json" := by
    decide
  obtain rfl : [Path.ofText "root/a.json"] = scripts := by
    rw [isInput, isExtension, collect_eq isRoot_selfNamed] at collected
    rw [← scriptsBelow_selfNamed]
    exact Except.ok.inj collected
  obtain ⟨names, content, isScript, isFile, -, keptIff, -⟩ :=
    fates _ List.mem_cons_self
  obtain rfl : ["a.json"] = names := by
    have form : (Path.ofText "root/a.json").segments = ["root", "a.json"] := by
      decide
    have isBase : (Path.ofText "root").base = ["root"] := by decide
    rw [isInput, join_of_ne_empty rfl isRoot_selfNamed.ne_empty,
      isBase] at isScript
    rw [isScript] at form
    cases names with
    | nil => simp [ofSegments, ofNames] at form
    | cons first rest =>
        obtain ⟨rfl, rfl⟩ : first = "a.json" ∧ rest = [] := by
            simpa [ofSegments, ofNames] using form
        rfl
  obtain rfl : Content.ofText "box" = content :=
    Entry.file.inj (Option.some.inj isFile)
  obtain ⟨final, isConverted, leads⟩ := exists_convertFile_selfNamed
  have wholeRun : convertAll selfNamedSettings.input selfNamedSettings.directory
      selfNamedSettings.format selfNamed [Path.ofText "root/a.json"] =
        (final,
          [⟨Path.ofText "root/a.json", .ok (Path.ofText "root/a.json")⟩]) := by
    simp only [convertAll, selfNamedSettings, Option.map_none, isConverted]
  obtain ⟨isFinal, isResults⟩ := Prod.mk.inj (wholeRun.symm.trans isRun)
  obtain ⟨ruleSet, accepted⟩ := exists_ruleSet_of_box
  refine (keptIff "box" ruleSet (text?_ofText "box") accepted).mp isKept ?_
  rw [← isFinal, ← isResults]
  exact ⟨_, List.mem_cons_self, _, rfl, leads⟩

end Conversion

end Eisen
