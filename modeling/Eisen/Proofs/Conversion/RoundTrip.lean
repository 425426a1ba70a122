import Eisen.Catalog.Validation
import Eisen.Conversion.Basic
import Eisen.Proofs.Json.RoundTrip
import Eisen.Proofs.RuleSet.Conformance

namespace Eisen

/-!
# Scripts against their own descriptions

A script is converted into a description, the text of the description is read
again, and the two halves are validated as a pair. This module says what reading
the text gives and when the pair is clean.
-/

/--
Where a numeral is written as a real number, that number is read
back from its text.
-/
def Numeral.ReadsBack (numeral : Numeral) : Prop :=
  ∀ number, numeral.toJson = .real number →
    Json.read (Json.realText number) = .ok (.real number)

instance (text : String) (number : Binary64) :
    Decidable (Json.read text = .ok (.real number)) :=
  match Json.read text with
  | .ok (.real found) => decidable_of_iff (found = number) (by simp)
  | .ok .null => isFalse nofun
  | .ok (.bool _) => isFalse nofun
  | .ok (.integer _) => isFalse nofun
  | .ok (.text _) => isFalse nofun
  | .ok (.array _) => isFalse nofun
  | .ok (.object _) => isFalse nofun
  | .error _ => isFalse nofun

instance (value : Json) :
    Decidable (∀ number, value = .real number →
      Json.read (Json.realText number) = .ok (.real number)) :=
  match value with
  | .real number =>
      decidable_of_iff
        (Json.read (Json.realText number) = .ok (.real number)) (by simp)
  | .null => isTrue nofun
  | .bool _ => isTrue nofun
  | .integer _ => isTrue nofun
  | .text _ => isTrue nofun
  | .array _ => isTrue nofun
  | .object _ => isTrue nofun

instance (numeral : Numeral) : Decidable numeral.ReadsBack :=
  inferInstanceAs (Decidable (∀ number, numeral.toJson = .real number →
    Json.read (Json.realText number) = .ok (.real number)))

/-! The text of a description. -/

namespace Json

/--
A value that is read back from its text and is not nested more
deeply than a bound.
-/
structure IsWritableWithin
    (bound : Nat)
    (value : Json) : Prop where
  writable : value.Writable
  shallow : value.depth ≤ bound

namespace IsWritableWithin

variable {bound : Nat}

theorem text (value : String) : IsWritableWithin bound (.text value) :=
  ⟨.text value, Nat.zero_le _⟩

/-- A list is one level deeper than its items. -/
theorem array
    {items : List Json}
    (within : ∀ item ∈ items, IsWritableWithin bound item) :
    IsWritableWithin (bound + 1) (.array items) where
  writable := .array fun item member => (within item member).writable
  shallow := by
    rw [depth, Nat.add_comm, Nat.add_le_add_iff_right, itemDepth_le_iff]
    exact fun item member => (within item member).shallow

/-- An object is one level deeper than its members. -/
theorem object
    {members : List (String × Json)}
    (within : ∀ member ∈ members, IsWritableWithin bound member.2) :
    IsWritableWithin (bound + 1) (.object members) where
  writable := .object fun member inMembers => (within member inMembers).writable
  shallow := by
    rw [depth, Nat.add_comm, Nat.add_le_add_iff_right, memberDepth_le_iff]
    exact fun member inMembers => (within member inMembers).shallow

end IsWritableWithin

end Json

open Json (IsWritableWithin)

theorem Numeral.isWritableWithin
    (bound : Nat)
    {numeral : Numeral}
    (readsBack : numeral.ReadsBack) :
    IsWritableWithin bound numeral.toJson := by
  unfold ReadsBack toJson at readsBack
  unfold toJson
  cases isInteger : numeral.integer? with
  | some value =>
      have exact : Json.IsExact value := by
        obtain ⟨-, small⟩ := Option.filter_eq_some_iff.mp isInteger
        rw [Bool.and_eq_true, decide_eq_true_eq, decide_eq_true_eq] at small
        simp only [leastInteger, greatestInteger] at small
        simp only [Json.IsExact, Json.greatestNegative,
          Json.greatestSignificand]
        omega
      exact ⟨.integer exact, Nat.zero_le _⟩
  | none =>
      rw [isInteger] at readsBack
      cases isNumber : numeral.number? with
      | some number =>
          rw [isNumber] at readsBack
          exact ⟨.real (Binary64.isCanonical_of_read? isNumber)
            (readsBack number rfl),
            Nat.zero_le _⟩
      | none => exact .text _

theorem Call.isWritableWithin
    {call : Call}
    (readsBack : ∀ count ∈ call.count, count.ReadsBack) :
    IsWritableWithin 1 call.toJson := by
  refine .object ((call.forall_mem_members_iff _).mpr ⟨?_, .text _, ?_⟩)
  · cases call.target <;> exact .text _
  · exact fun count isCount =>
      Numeral.isWritableWithin 0 (readsBack count isCount)

theorem Rule.isWritableWithin
    {rule : Rule}
    (readsBack : ∀ numeral ∈ rule.numerals, numeral.ReadsBack) :
    IsWritableWithin 3 rule.toJson := by
  obtain ⟨weights, depths, counts⟩ :=
    (rule.forall_mem_numerals_iff Numeral.ReadsBack).mp readsBack
  refine .object ((rule.forall_mem_members_iff _).mpr ⟨.text _, ?_, ?_, ?_, ?_⟩)
  · exact fun weight isWeight =>
      Numeral.isWritableWithin 2 (weights weight isWeight)
  · exact fun depth isDepth => Numeral.isWritableWithin 2 (depths depth isDepth)
  · exact fun successor _ => .text _
  · refine .array (List.forall_mem_map.mpr ?_)
    exact fun call inRule => Call.isWritableWithin (counts call inRule)

theorem Description.isWritableWithin
    {description : Description}
    (readsBack : ∀ numeral ∈ description.ruleSet.numerals, numeral.ReadsBack) :
    IsWritableWithin 5 description.toJson := by
  obtain ⟨depth, others⟩ := List.forall_mem_cons.mp readsBack
  refine .object ((description.forall_mem_members_iff _).mpr ⟨?_, ?_, ?_, ?_⟩)
  · exact fun title _ => .text _
  · exact fun source _ => .text _
  · exact Numeral.isWritableWithin 4 depth
  · refine .array (List.forall_mem_map.mpr ?_)
    exact fun rule inRules => Rule.isWritableWithin fun numeral member =>
      others numeral (List.mem_flatMap.mpr ⟨rule, inRules, member⟩)

namespace Description

/--
The text of a description reads as its value, with members in the order of their
names.
-/
theorem read_json_fileText
    {description : Description}
    (readsBack : ∀ numeral ∈ description.ruleSet.numerals, numeral.ReadsBack) :
    Json.read description.fileText = .ok description.toJson.sorted := by
  have within := isWritableWithin readsBack
  exact Json.read_indented within.writable
    (Nat.le_trans within.shallow (by decide))

/--
A description that conforms is read from its text, but for the
spelling of numerals.
-/
theorem read_fileText
    {description : Description}
    (isJson : Json.read description.fileText = .ok description.toJson.sorted)
    (scripted : ∀ numeral ∈ description.ruleSet.numerals, numeral.IsScripted)
    (someRule : description.ruleSet.rules ≠ [])
    (conforms : ∀ rule ∈ description.ruleSet.rules, rule.Conforms) :
    read .embedded description.fileText =
      .ok { description with ruleSet := description.ruleSet.reread } := by
  have clean :
      LabelledSchema.embedded.messages description.toJson.sorted = [] :=
    (messages_embedded_eq_nil_iff fun numeral member =>
      (scripted numeral member).hasInk).mpr
      ⟨someRule, conforms⟩
  have decoded :=
    ofJson_sorted fun numeral member => (scripted numeral member).isTrimmed
  rw [read, isJson]
  simp only [clean, decoded]
  rfl

/--
A description with a rule that does not conform is not read from its text.
-/
theorem read_fileText_eq_violations
    {description : Description}
    (isJson : Json.read description.fileText = .ok description.toJson.sorted)
    (scripted : ∀ numeral ∈ description.ruleSet.numerals, numeral.IsScripted)
    (violates : ¬ ∀ rule ∈ description.ruleSet.rules, rule.Conforms) :
    ∃ messages, read .embedded description.fileText =
      .error (.violations messages) := by
  have unclean :
      LabelledSchema.embedded.messages description.toJson.sorted ≠ [] := by
    rw [Ne,
      messages_embedded_eq_nil_iff fun numeral member =>
        (scripted numeral member).hasInk]
    exact fun accepted => violates accepted.2
  rw [read, isJson]
  cases messages : LabelledSchema.embedded.messages
    description.toJson.sorted with
  | nil => exact absurd messages unclean
  | cons first rest =>
      simp only [messages]
      exact ⟨_, rfl⟩

end Description

/-! Validation. -/

theorem RuleSet.malformedData_not_mem_undefinedReferences
    (ruleSet : RuleSet)
    (side : Side)
    (message : String) :
    .malformedData message ∉ ruleSet.undefinedReferences side := by
  rw [mem_undefinedReferences_iff]
  rintro ⟨slot, arises⟩
  cases arises

namespace Validation

variable
    {schema : Description.LabelledSchema}
    {source text : String}
    {ruleSet : RuleSet}

/--
Two halves that are read have the findings about either of them and about both.
-/
theorem pairFindings_of_read
    (script : RuleSet.ofSource source = .ok ruleSet)
    {description : Description}
    (data : Description.read schema text = .ok description) :
    pairFindings schema (.ok source) (.ok text) =
      ruleSet.undefinedReferences .script ++
        description.ruleSet.undefinedReferences .data ++
        ruleSet.differences description.ruleSet := by
  have scripts : scriptRules (.ok source) = .ok ruleSet := by
    simp only [scriptRules, script]
  have datas : dataRules schema (.ok text) = .ok description.ruleSet := by
    simp only [dataRules, Description.ofFileText, data, Except.mapError]
  simp [pairFindings, scripts, datas, malformed, references, comparison]

/-- A description that cannot be read leaves the findings about the script. -/
theorem pairFindings_of_fault
    (script : RuleSet.ofSource source = .ok ruleSet)
    {fault : Description.Fault}
    (data : Description.read schema text = .error fault) :
    pairFindings schema (.ok source) (.ok text) =
      .malformedData fault.message :: ruleSet.undefinedReferences .script := by
  have scripts : scriptRules (.ok source) = .ok ruleSet := by
    simp only [scriptRules, script]
  have datas :
      dataRules schema (.ok text) = .error (.malformedData fault.message) := by
    rw [dataRules, Description.ofFileText, data]
    rfl
  simp [pairFindings, scripts, datas, malformed, references, comparison]

/-- A description that cannot be read leaves more than undefined references. -/
theorem pairFindings_ne_references
    (script : RuleSet.ofSource source = .ok ruleSet)
    {fault : Description.Fault}
    (data : Description.read schema text = .error fault) :
    pairFindings schema (.ok source) (.ok text) ≠
      ruleSet.undefinedReferences .script ++
        ruleSet.undefinedReferences .data := by
  rw [pairFindings_of_fault script data]
  intro same
  have reported := same ▸ List.mem_cons_self
  rcases List.mem_append.mp reported with inScript | inData
  · exact ruleSet.malformedData_not_mem_undefinedReferences _ _ inScript
  · exact ruleSet.malformedData_not_mem_undefinedReferences _ _ inData

/-- An example with both halves has the findings of its two texts. -/
theorem discrepancies_ofExample
    {fileSystem : FileSystem}
    {pair : Example}
    {scriptText dataText : Except Storage.Fault String}
    (atScript : pair.script.map fileSystem.readText = some scriptText)
    (atData : pair.data.map fileSystem.readText = some dataText) :
    (ofExample fileSystem schema pair).discrepancies =
      pairFindings schema scriptText dataText := by
  simp only [ofExample, findings, atScript, atData]

end Validation

/--
The script survives its conversion: no chain of loops leads to a shape with a
suffix, and no number is a minus sign with zeros.
-/
def Script.SurvivesConversion (script : Script) : Prop :=
  ¬ script.LoopsSuffixedShape ∧
    ∀ numeral ∈ (RuleSet.ofScript script).numerals, numeral.isMinusZero = false

instance (script : Script) : Decidable script.SurvivesConversion :=
  inferInstanceAs (Decidable (¬ script.LoopsSuffixedShape ∧
    ∀ numeral ∈ (RuleSet.ofScript script).numerals,
        numeral.isMinusZero = false))

/--
A rule set of a script differs from what its description reads as exactly where
it holds a minus zero.
-/
theorem RuleSet.differences_reread_ofScript_iff
    {script : Script}
    (spelled : script.IsSpelled) :
    (ofScript script).differences (ofScript script).reread = [] ↔
      ∀ numeral ∈ (ofScript script).numerals, numeral.isMinusZero = false := by
  rw [differences_reread_eq_nil_iff]
  refine forall₂_congr fun numeral member => ?_
  have scripted := isScripted_of_mem_ofScript spelled numeral member
  rw [Numeral.Survives, eq_comm,
    Numeral.canonical_reread_eq_iff scripted.isTrimmed]

namespace Conversion

/-- An accepted script is converted into the description of its rule set. -/
theorem convert_json_of_ofSource
    {source : String}
    {script : Script}
    (accepted : Script.ofSource source = .ok script)
    (title : Option String) :
    convert source title .json =
      .ok (Description.fileText ⟨title, none, RuleSet.ofScript script⟩) := by
  simp [convert, RuleSet.ofSource, accepted, Except.map, render]

section

variable
    {source : String}
    {script : Script}
    (accepted : Script.ofSource source = .ok script)

include accepted

/--
The description of a script is read unless loops around a suffixed
shape are chained.
-/
theorem read_own_description_of_json
    {title : Option String}
    (isJson :
      Json.read (Description.fileText ⟨title, none, RuleSet.ofScript script⟩) =
      .ok (Description.toJson ⟨title, none, RuleSet.ofScript script⟩).sorted)
    (plain : ¬ script.LoopsSuffixedShape) :
    Description.read .embedded
      (Description.fileText ⟨title, none, RuleSet.ofScript script⟩) =
      .ok ⟨title, none, (RuleSet.ofScript script).reread⟩ := by
  have spelled := Script.isSpelled_of_ofSource accepted
  have conforms := (RuleSet.conforms_ofScript_iff spelled).mpr plain
  exact Description.read_fileText isJson
    (RuleSet.isScripted_of_mem_ofScript spelled)
    (List.cons_ne_nil _ _) conforms

/--
Where loops around a suffixed shape are chained, the schema refuses
the description.
-/
theorem read_own_description_refused_of_json
    {title : Option String}
    (isJson :
      Json.read (Description.fileText ⟨title, none, RuleSet.ofScript script⟩) =
      .ok (Description.toJson ⟨title, none, RuleSet.ofScript script⟩).sorted)
    (suffixed : script.LoopsSuffixedShape) :
    ∃ messages,
      Description.read .embedded
        (Description.fileText ⟨title, none, RuleSet.ofScript script⟩) =
        .error (.violations messages) := by
  have spelled := Script.isSpelled_of_ofSource accepted
  refine Description.read_fileText_eq_violations isJson
    (RuleSet.isScripted_of_mem_ofScript spelled) ?_
  exact fun conforms =>
    (RuleSet.conforms_ofScript_iff spelled).mp conforms suffixed

/--
The schema finds something wrong with the JSON value itself where
loops are so chained.
-/
theorem messages_own_description_eq_nil_iff
    (title : Option String) :
    Description.LabelledSchema.embedded.messages
        (Description.toJson ⟨title, none, RuleSet.ofScript script⟩).sorted =
          [] ↔
      ¬ script.LoopsSuffixedShape := by
  have spelled := Script.isSpelled_of_ofSource accepted
  have ink := fun numeral member =>
    (RuleSet.isScripted_of_mem_ofScript spelled numeral member).hasInk
  rw [← RuleSet.conforms_ofScript_iff spelled]
  refine (@Description.messages_embedded_eq_nil_iff
    ⟨title, none, RuleSet.ofScript script⟩ ink).trans (and_iff_right ?_)
  exact List.cons_ne_nil _ _

variable
    (readsBack :
      ∀ numeral ∈ (RuleSet.ofScript script).numerals, numeral.ReadsBack)
    (title : Option String)

include readsBack

/--
A script's own description is read unless the script loops a suffixed shape.
-/
theorem read_own_description
    (plain : ¬ script.LoopsSuffixedShape) :
    Description.read .embedded
      (Description.fileText ⟨title, none, RuleSet.ofScript script⟩) =
      .ok ⟨title, none, (RuleSet.ofScript script).reread⟩ :=
  read_own_description_of_json accepted
    (Description.read_json_fileText readsBack) plain

/-- The description of a script that loops a suffixed shape is refused. -/
theorem read_own_description_refused
    (suffixed : script.LoopsSuffixedShape) :
    ∃ messages,
      Description.read .embedded
        (Description.fileText ⟨title, none, RuleSet.ofScript script⟩) =
        .error (.violations messages) :=
  read_own_description_refused_of_json accepted
    (Description.read_json_fileText readsBack) suffixed

end

/--
A script that is converted into a description and validated against it. The
description is read with its title and agrees with the script exactly if the
script survives the conversion, and exactly then the findings about the pair are
the undefined references of the script, once for each half.
-/
theorem own_description_validates_iff
    {source : String}
    {script : Script}
    (accepted : Script.ofSource source = .ok script)
    (readsBack :
      ∀ numeral ∈ (RuleSet.ofScript script).numerals, numeral.ReadsBack)
    (title : Option String) :
    ∃ text, convert source title .json = .ok text ∧
      ((∃ data, Description.read .embedded text = .ok ⟨title, none, data⟩ ∧
          (RuleSet.ofScript script).differences data = []) ↔
            script.SurvivesConversion) ∧
      ∀ (fileSystem : FileSystem) (pair : Example),
        pair.script.map fileSystem.readText = some (.ok source) →
          pair.data.map fileSystem.readText = some (.ok text) →
            ((Validation.ofExample fileSystem .embedded pair).discrepancies =
                (RuleSet.ofScript script).undefinedReferences .script ++
                  (RuleSet.ofScript script).undefinedReferences .data ↔
              script.SurvivesConversion) := by
  have unrolled : RuleSet.ofSource source = .ok (RuleSet.ofScript script) := by
    rw [RuleSet.ofSource, accepted]
  refine ⟨_, convert_json_of_ofSource accepted title, ?_⟩
  by_cases suffixed : script.LoopsSuffixedShape
  · have refused : ¬ script.SurvivesConversion :=
      fun survives => survives.1 suffixed
    obtain ⟨messages, unread⟩ :=
      read_own_description_refused accepted readsBack title suffixed
    constructor
    · refine iff_of_false ?_ refused
      rintro ⟨data, read, -⟩
      cases unread.symm.trans read
    · intro fileSystem pair atScript atData
      refine iff_of_false ?_ refused
      rw [Validation.discrepancies_ofExample atScript atData]
      exact Validation.pairFindings_ne_references unrolled unread
  · have read := read_own_description accepted readsBack title suffixed
    have survives : (RuleSet.ofScript script).differences
        (RuleSet.ofScript script).reread = [] ↔
        script.SurvivesConversion := by
      rw [RuleSet.differences_reread_ofScript_iff
        (Script.isSpelled_of_ofSource accepted)]
      exact ⟨fun kept => ⟨suffixed, kept⟩, And.right⟩
    rw [← survives]
    constructor
    · constructor
      · rintro ⟨data, again, same⟩
        cases read.symm.trans again
        exact same
      · exact fun same => ⟨_, read, same⟩
    · intro fileSystem pair atScript atData
      rw [Validation.discrepancies_ofExample atScript atData,
        Validation.pairFindings_of_read unrolled read,
        RuleSet.undefinedReferences_reread,
        List.append_right_eq_self]

example : ∃ script ∈
  (Script.ofSource "\x7b x 1 \x7d \x7b y 1 \x7d sphere::shiny").toOption,
    ¬ script.SurvivesConversion := by
  decide +kernel

example : ∃ script ∈ (Script.ofSource "-0 * \x7b x 1 \x7d box").toOption,
    ¬ script.SurvivesConversion := by
  decide +kernel

/--
A script with a real number and a chain of loops survives, and so
does its title.
-/
theorem own_description_validates_looped_box :
    ∃ script,
      Script.ofSource
        "a rule a w 0.5 \x7b \x7b x 1 \x7d 2 * \x7b y 1 \x7d box \x7d" =
          .ok script ∧
        (∀ numeral ∈ (RuleSet.ofScript script).numerals, numeral.ReadsBack) ∧
        script.SurvivesConversion ∧
        ∃ text,
          convert "a rule a w 0.5 \x7b \x7b x 1 \x7d 2 * \x7b y 1 \x7d box \x7d"
              (some "Boxes") .json = .ok text ∧
            ∃ data, Description.read .embedded text =
              .ok ⟨some "Boxes", none, data⟩ ∧
              (RuleSet.ofScript script).differences data = [] := by
  obtain ⟨script, accepted, readsBack, survives⟩ :
      ∃ script,
        Script.ofSource
          "a rule a w 0.5 \x7b \x7b x 1 \x7d 2 * \x7b y 1 \x7d box \x7d" =
            .ok script ∧
          (∀ numeral ∈ (RuleSet.ofScript script).numerals, numeral.ReadsBack) ∧
          script.SurvivesConversion :=
    ⟨⟨none, [⟨[], .rule "a", 1⟩],
        [⟨"a", some "0.5", none, none,
          [⟨[⟨none, [⟨.moveX, ["1"]⟩]⟩, ⟨some "2", [⟨.moveY, ["1"]⟩]⟩],
              .shape "box", 1⟩], 1⟩]⟩,
      by decide +kernel, by decide +kernel, by decide +kernel⟩
  obtain ⟨text, converted, validates, -⟩ :=
    own_description_validates_iff accepted readsBack (some "Boxes")
  exact ⟨script, accepted, readsBack, survives, text, converted,
    validates.mpr survives⟩

/--
What the schema refuses of its own program's descriptions: those of scripts that
chain loops around a suffixed shape, and no others. The first equivalence is
about the JSON value that is written. The reader comes to the same decision
wherever it reads that value back, with its members in order, and it does so if
every real number of the description is read back from its text.
-/
theorem own_description_refused_iff
    {source : String}
    {script : Script}
    (accepted : Script.ofSource source = .ok script)
    (title : Option String) :
    ∃ value : Json,
      convert source title .json = .ok (value.indented ++ "\n") ∧
        (Description.LabelledSchema.embedded.messages value.sorted ≠ [] ↔
          script.LoopsSuffixedShape) ∧
        ((∀ numeral ∈ (RuleSet.ofScript script).numerals, numeral.ReadsBack) →
          Json.read (value.indented ++ "\n") = .ok value.sorted) ∧
        (Json.read (value.indented ++ "\n") = .ok value.sorted →
          ((∃ messages,
              Description.read .embedded (value.indented ++ "\n") =
                .error (.violations messages)) ↔ script.LoopsSuffixedShape) ∧
            ((∃ description,
              Description.read .embedded (value.indented ++ "\n") =
                .ok description) ↔
                ¬ script.LoopsSuffixedShape)) := by
  refine ⟨_, convert_json_of_ofSource accepted title, ?_, ?_, ?_⟩
  · rw [Ne, messages_own_description_eq_nil_iff accepted title, not_not]
  · exact fun readsBack => Description.read_json_fileText readsBack
  · intro isJson
    by_cases suffixed : script.LoopsSuffixedShape
    · obtain ⟨messages, unread⟩ :=
        read_own_description_refused_of_json accepted isJson suffixed
      refine ⟨iff_of_true ⟨messages, unread⟩ suffixed,
        iff_of_false ?_ (not_not.mpr suffixed)⟩
      rintro ⟨description, read⟩
      cases unread.symm.trans read
    · have read := read_own_description_of_json accepted isJson suffixed
      refine ⟨iff_of_false ?_ suffixed, iff_of_true ⟨_, read⟩ suffixed⟩
      rintro ⟨messages, unread⟩
      cases unread.symm.trans read

/--
A suffixed shape in one loop is accepted with its real number, and in
two it is refused.
-/
theorem own_description_refused_suffixed_sphere :
    (∃ text description,
      convert "a rule a w 0.5 \x7b \x7b x 1 \x7d sphere::shiny \x7d" none
        .json = .ok text ∧
        Description.read .embedded text = .ok description) ∧
      ∃ text messages,
        convert "\x7b x 1 \x7d \x7b y 1 \x7d sphere::shiny" none
          .json = .ok text ∧
          Description.read .embedded text = .error (.violations messages) := by
  constructor
  · obtain ⟨script, accepted, readsBack, plain⟩ :
        ∃ script,
          Script.ofSource
            "a rule a w 0.5 \x7b \x7b x 1 \x7d sphere::shiny \x7d" =
              .ok script ∧
            (∀ numeral ∈ (RuleSet.ofScript script).numerals,
              numeral.ReadsBack) ∧
            ¬ script.LoopsSuffixedShape :=
      ⟨⟨none, [⟨[], .rule "a", 1⟩],
          [⟨"a", some "0.5", none, none,
            [⟨[⟨none, [⟨.moveX, ["1"]⟩]⟩], .shape "sphere::shiny", 1⟩], 1⟩]⟩,
        by decide +kernel, by decide +kernel, by decide +kernel⟩
    obtain ⟨value, converted, -, isJson, decides⟩ :=
      own_description_refused_iff accepted none
    obtain ⟨description, read⟩ := (decides (isJson readsBack)).2.mpr plain
    exact ⟨_, description, converted, read⟩
  · obtain ⟨script, accepted, readsBack, suffixed⟩ :
        ∃ script,
          Script.ofSource "\x7b x 1 \x7d \x7b y 1 \x7d sphere::shiny" =
            .ok script ∧
            (∀ numeral ∈ (RuleSet.ofScript script).numerals,
              numeral.ReadsBack) ∧
            script.LoopsSuffixedShape :=
      ⟨⟨none,
          [⟨[⟨none, [⟨.moveX, ["1"]⟩]⟩, ⟨none, [⟨.moveY, ["1"]⟩]⟩],
              .shape "sphere::shiny", 1⟩],
          []⟩,
        by decide +kernel, by decide, by decide +kernel⟩
    obtain ⟨value, converted, -, isJson, decides⟩ :=
      own_description_refused_iff accepted none
    obtain ⟨messages, unread⟩ := (decides (isJson readsBack)).1.mpr suffixed
    exact ⟨_, messages, converted, unread⟩

end Conversion

end Eisen
