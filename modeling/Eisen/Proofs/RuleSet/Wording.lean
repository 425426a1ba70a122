import Eisen.Proofs.RuleSet.Signatures
import Eisen.Proofs.Script.Wording

namespace Eisen

/-!
# Findings about rule sets are worded in one line

A finding about one or two rule sets shows names and numerals of their rules as
they stand, and the words of their transformations. So line feeds come into a
message only through names and numerals, and those of a script hold none.
-/

open Text

/-- A rule whose names and numerals are one line each. -/
structure Rule.IsOneLine (rule : Rule) : Prop where
  name : Text.IsOneLine rule.name
  successor : ∀ successor ∈ rule.successor, Text.IsOneLine successor
  targets : ∀ call ∈ rule.calls, Text.IsOneLine call.target.name
  numerals : ∀ numeral ∈ rule.numerals, Text.IsOneLine numeral.text

/-- A rule set whose names and numerals are one line each. -/
structure RuleSet.IsOneLine (ruleSet : RuleSet) : Prop where
  maxDepth : Text.IsOneLine ruleSet.maxDepth.text
  rules : ∀ rule ∈ ruleSet.rules, rule.IsOneLine

/-! Numerals and signatures. -/

theorem Numeral.isOneLine_numberText (number : Binary64) :
    Text.IsOneLine (numberText number) := by
  have digits :
      ∀ symbol ∈ (Digits.shortest .up number).digits, symbol.isDigit = true :=
    Digits.isDigit_of_mem_shortest
  have noFeed : ¬ Json.IsNumeric '\n' := by simp [Json.IsNumeric]
  refine isOneLine_signed ?_ number.negative
  split
  · decide
  · exact fun member => noFeed (Json.isNumeric_of_mem_positional digits member)

/-- A canonical form stands in one line if its numeral does. -/
theorem Numeral.isOneLine_canonical
    {numeral : Numeral}
    (plain : Text.IsOneLine numeral.text) :
    Text.IsOneLine numeral.canonical := by
  rw [canonical]
  split
  · exact isOneLine_numberText _
  · exact plain

theorem Call.isOneLine_plainTransforms (call : Call) :
    Text.IsOneLine call.plainTransforms := by
  refine isOneLine_intercalate " " (isOneLine_literal rfl)
    fun word member feed => ?_
  exact absurd ((Text.mem_words member).2 '\n' feed).1 (by decide)

/-- The label of a target stands in one line if its name does. -/
theorem Target.isOneLine_label
    {target : Target}
    (named : Text.IsOneLine target.name) :
    Text.IsOneLine target.label := by
  cases target <;> exact (isOneLine_append _ _).mpr
    ⟨isOneLine_literal rfl, named⟩

/-- A signature stands in one line if the target and the count do. -/
theorem Call.isOneLine_signature
    {call : Call}
    (named : Text.IsOneLine call.target.name)
    (counted : ∀ count ∈ call.count, Text.IsOneLine count.text) :
    Text.IsOneLine call.signature := by
  rw [Text.IsOneLine, toList_signature, List.mem_append, List.mem_append,
    not_or, not_or]
  refine ⟨Target.isOneLine_label named, ?_, ?_⟩
  · cases form : call.count with
    | none => exact List.not_mem_nil
    | some count =>
        have canonical : '\n' ∉ count.canonical.toList :=
          Numeral.isOneLine_canonical (counted count form)
        simpa [countLabel] using canonical
  · have plain : '\n' ∉ call.plainTransforms.toList :=
      call.isOneLine_plainTransforms
    unfold blockLabel
    split
    · exact List.not_mem_nil
    · simpa using plain

/-! Messages. -/

/-- The label of a rule stands in one line if its name does. -/
theorem isOneLine_ruleLabel
    {rule : String}
    (plain : IsOneLine rule) :
    IsOneLine (ruleLabel rule) := by
  simp only [ruleLabel, isOneLine_append, plain, and_true]
  and_intros <;> exact isOneLine_literal rfl

theorem isOneLine_side (side : Side) : IsOneLine side.text := by
  cases side <;> exact isOneLine_literal rfl

theorem isOneLine_parameter (parameter : Parameter) :
    IsOneLine parameter.text := by
  cases parameter <;> exact isOneLine_literal rfl

/-- The texts that a finding shows as they stand. -/
def Discrepancy.shown : Discrepancy → List String
  | .missingData => []
  | .missingScript => []
  | .malformedScript message => [message]
  | .malformedData message => [message]
  | .undefinedRule _ caller target => [caller, target]
  | .undefinedSuccessor _ rule successor => [rule, successor]
  | .maxDepthMismatch script data => [script, data]
  | .ruleOnlyInScript rule => [rule]
  | .ruleOnlyInData rule => [rule]
  | .variantCountMismatch rule _ _ => [rule]
  | .parameterMismatch rule _ _ script data => [rule, script, data]
  | .callMismatch rule _ _ script data => [rule, script, data]

/-- A finding is worded in one line where each text that it shows is one. -/
theorem Discrepancy.isOneLine_message
    {finding : Discrepancy}
    (each : ∀ text ∈ finding.shown, IsOneLine text) :
    IsOneLine finding.message := by
  unfold message
  cases finding with
  | missingData => exact isOneLine_literal rfl
  | missingScript => exact isOneLine_literal rfl
  | malformedScript text =>
      exact (isOneLine_append _ _).mpr
        ⟨isOneLine_literal rfl, List.forall_mem_singleton.mp each⟩
  | malformedData text =>
      exact (isOneLine_append _ _).mpr
        ⟨isOneLine_literal rfl, List.forall_mem_singleton.mp each⟩
  | undefinedRule side caller target =>
      simp only [shown, List.forall_mem_cons] at each
      simp only [isOneLine_append, isOneLine_side, isOneLine_ruleLabel each.1,
        each.2.1, true_and, and_true]
      and_intros <;> exact isOneLine_literal rfl
  | undefinedSuccessor side rule successor =>
      simp only [shown, List.forall_mem_cons] at each
      simp only [isOneLine_append, isOneLine_side, isOneLine_ruleLabel each.1,
        each.2.1, true_and, and_true]
      and_intros <;> exact isOneLine_literal rfl
  | maxDepthMismatch script data =>
      simp only [shown, List.forall_mem_cons] at each
      simp only [isOneLine_append, each.1, each.2.1, and_true]
      and_intros <;> exact isOneLine_literal rfl
  | ruleOnlyInScript rule =>
      simp only [isOneLine_append,
        isOneLine_ruleLabel (List.forall_mem_singleton.mp each), true_and]
      exact isOneLine_literal rfl
  | ruleOnlyInData rule =>
      simp only [isOneLine_append,
        isOneLine_ruleLabel (List.forall_mem_singleton.mp each), true_and]
      exact isOneLine_literal rfl
  | variantCountMismatch rule script data =>
      simp only [isOneLine_append,
        isOneLine_ruleLabel (List.forall_mem_singleton.mp each),
        isOneLine_toString, true_and, and_true]
      and_intros <;> exact isOneLine_literal rfl
  | parameterMismatch rule variant parameter script data =>
      simp only [shown, List.forall_mem_cons] at each
      simp only [isOneLine_append, isOneLine_ruleLabel each.1,
        isOneLine_toString, isOneLine_parameter, each.2.1, each.2.2.1,
        true_and, and_true]
      and_intros <;> exact isOneLine_literal rfl
  | callMismatch rule variant index script data =>
      simp only [shown, List.forall_mem_cons] at each
      simp only [isOneLine_append, isOneLine_ruleLabel each.1,
        isOneLine_toString, each.2.1, each.2.2.1, true_and, and_true]
      and_intros <;> exact isOneLine_literal rfl

/-! Differences of rules. -/

namespace Rule

/--
Optional numerals have canonical forms of one line if they stand in one line.
-/
theorem isOneLine_of_mem_map
    {field : Option Numeral}
    (plain : ∀ numeral ∈ field, Text.IsOneLine numeral.text) :
    ∀ text ∈ field.map Numeral.canonical, Text.IsOneLine text := by
  intro text member
  obtain ⟨numeral, isNumeral, rfl⟩ := Option.mem_map.mp member
  exact Numeral.isOneLine_canonical (plain numeral isNumeral)

/-- The calls of a rule without line ends have signatures of one line. -/
theorem IsOneLine.isOneLine_signature
    {rule : Rule}
    (plain : rule.IsOneLine) :
    ∀ call ∈ rule.calls, Text.IsOneLine call.signature := by
  intro call member
  exact call.isOneLine_signature (plain.targets call member)
    (((rule.forall_mem_numerals_iff _).mp plain.numerals).2.2 call member)

section

variable {rule : String} (named : Text.IsOneLine rule) (variant : Nat)
include named

/-- A parameter that differs is reported in one line. -/
theorem parameterDifference_isOneLine
    (parameter : Parameter)
    {script data : Option String}
    (left : ∀ text ∈ script, Text.IsOneLine text)
    (right : ∀ text ∈ data, Text.IsOneLine text) :
    ∀ finding ∈ parameterDifference rule variant parameter script data,
      Text.IsOneLine finding.message := by
  have shown (field : Option String)
      (plain : ∀ text ∈ field, Text.IsOneLine text) :
      Text.IsOneLine (field.getD "-") := by
    cases field with
    | none => exact isOneLine_literal rfl
    | some text => exact plain text rfl
  unfold parameterDifference
  split
  · exact List.forall_mem_nil _
  · rw [List.forall_mem_singleton]
    apply Discrepancy.isOneLine_message
    simp only [Discrepancy.shown, List.forall_mem_cons]
    exact ⟨named, shown script left, shown data right, List.forall_mem_nil _⟩

/-- Calls that differ are reported in one line each. -/
theorem callDifferences_isOneLine
    (index : Nat)
    {scripts datas : List Call}
    (left : ∀ call ∈ scripts, Text.IsOneLine call.signature)
    (right : ∀ call ∈ datas, Text.IsOneLine call.signature) :
    ∀ finding ∈ callDifferences rule variant index scripts datas,
      Text.IsOneLine finding.message := by
  induction scripts generalizing index datas with
  | nil => exact List.forall_mem_nil _
  | cons script scripts inductionHypothesis =>
      cases datas with
      | nil => exact List.forall_mem_nil _
      | cons data datas =>
          rw [List.forall_mem_cons] at left right
          have later := inductionHypothesis (index + 1) left.2 right.2
          rw [callDifferences]
          split
          · exact later
          · refine List.forall_mem_cons.mpr ⟨?_, later⟩
            apply Discrepancy.isOneLine_message
            simp only [Discrepancy.shown, List.forall_mem_cons]
            exact ⟨named, left.1, right.1, List.forall_mem_nil _⟩

end

/-- Rules that differ are reported in one line for each difference. -/
theorem differences_isOneLine
    (variant : Nat)
    {script data : Rule}
    (left : script.IsOneLine)
    (right : data.IsOneLine) :
    ∀ finding ∈ differences variant script data,
      Text.IsOneLine finding.message := by
  obtain ⟨weight, maxDepth, -⟩ :=
    (script.forall_mem_numerals_iff _).mp left.numerals
  obtain ⟨otherWeight, otherMaxDepth, -⟩ :=
    (data.forall_mem_numerals_iff _).mp right.numerals
  have count (number : Nat) :
      ∀ text ∈ some (toString number), Text.IsOneLine text := by
    intro text isCount
    cases isCount
    exact isOneLine_toString number
  have parameter := @parameterDifference_isOneLine script.name left.name variant
  simp only [differences, List.forall_mem_append]
  exact
    ⟨⟨⟨⟨parameter .weight (isOneLine_of_mem_map weight)
        (isOneLine_of_mem_map otherWeight),
        parameter .maxDepth (isOneLine_of_mem_map maxDepth)
            (isOneLine_of_mem_map otherMaxDepth)⟩,
            parameter .successor left.successor right.successor⟩,
            parameter .callCount (count _) (count _)⟩,
    callDifferences_isOneLine left.name variant 1 left.isOneLine_signature
      right.isOneLine_signature⟩

/-- Variants that differ are reported in one line for each difference. -/
theorem variantDifferences_isOneLine
    (variant : Nat)
    {scripts datas : List Rule}
    (left : ∀ rule ∈ scripts, rule.IsOneLine)
    (right : ∀ rule ∈ datas, rule.IsOneLine) :
    ∀ finding ∈ variantDifferences variant scripts datas,
      Text.IsOneLine finding.message := by
  induction scripts generalizing variant datas with
  | nil => exact List.forall_mem_nil _
  | cons script scripts inductionHypothesis =>
      cases datas with
      | nil => exact List.forall_mem_nil _
      | cons data datas =>
          rw [List.forall_mem_cons] at left right
          rw [variantDifferences, List.forall_mem_append]
          exact ⟨differences_isOneLine variant left.1 right.1,
            inductionHypothesis (variant + 1) left.2 right.2⟩

end Rule

/-! Findings about rule sets. -/

namespace RuleSet

variable {script data : RuleSet}

/-- The names of a rule set without line ends have none. -/
theorem isOneLine_of_mem_names
    (plain : script.IsOneLine)
    {name : String}
    (member : name ∈ script.names) :
    Text.IsOneLine name := by
  obtain ⟨rule, inRules, rfl⟩ := List.mem_map.mp member
  exact (plain.rules rule inRules).name

/-- Undefined references are reported in one line each. -/
theorem undefinedReferences_isOneLine
    (plain : script.IsOneLine)
    (side : Side) :
    ∀ finding ∈ script.undefinedReferences side,
      Text.IsOneLine finding.message := by
  intro finding member
  obtain ⟨slot, arises⟩ := mem_undefinedReferences_iff.mp member
  apply Discrepancy.isOneLine_message
  cases arises with
  | call isRule isCall targets undefined =>
      have rule := plain.rules _ (List.mem_of_getElem? isRule)
      have target := rule.targets _ (List.mem_of_getElem? isCall)
      rw [targets] at target
      exact List.forall_mem_cons.mpr
        ⟨rule.name, List.forall_mem_singleton.mpr target⟩
  | successor isRule isSuccessor undefined =>
      have rule := plain.rules _ (List.mem_of_getElem? isRule)
      exact List.forall_mem_cons.mpr
        ⟨rule.name, List.forall_mem_singleton.mpr
          (rule.successor _ isSuccessor)⟩

/-- The differences under one name are reported in one line each. -/
theorem nameDifferences_isOneLine
    (left : script.IsOneLine)
    (right : data.IsOneLine)
    {name : String}
    (named : Text.IsOneLine name) :
    ∀ finding ∈ nameDifferences script data name,
      Text.IsOneLine finding.message := by
  rw [nameDifferences]
  split
  · exact Rule.variantDifferences_isOneLine 1
      (fun rule member => left.rules rule (List.mem_of_mem_filter member))
      (fun rule member => right.rules rule (List.mem_of_mem_filter member))
  · rw [List.forall_mem_singleton]
    exact Discrepancy.isOneLine_message (List.forall_mem_singleton.mpr named)

/-- The differences between two rule sets of one line are worded in one line. -/
theorem differences_isOneLine
    (left : script.IsOneLine)
    (right : data.IsOneLine) :
    ∀ finding ∈ script.differences data, Text.IsOneLine finding.message := by
  have leftName (name : String) (member : name ∈ script.sortedNames) :
      Text.IsOneLine name :=
    isOneLine_of_mem_names left ((mem_sortedNames_iff _ _).mp member)
  have rightName (name : String) (member : name ∈ data.sortedNames) :
      Text.IsOneLine name :=
    isOneLine_of_mem_names right ((mem_sortedNames_iff _ _).mp member)
  simp only [differences, List.forall_mem_append, List.forall_mem_map,
    List.forall_mem_flatMap]
  refine ⟨⟨⟨?_, ?_⟩, ?_⟩, ?_⟩
  · split
    · exact List.forall_mem_nil _
    · rw [List.forall_mem_singleton]
      apply Discrepancy.isOneLine_message
      simp only [Discrepancy.shown, List.forall_mem_cons]
      exact ⟨Numeral.isOneLine_canonical left.maxDepth,
        Numeral.isOneLine_canonical right.maxDepth, List.forall_mem_nil _⟩
  · intro name member
    have named := leftName name (List.mem_of_mem_filter member)
    exact Discrepancy.isOneLine_message (List.forall_mem_singleton.mpr named)
  · intro name member
    have named := rightName name (List.mem_of_mem_filter member)
    exact Discrepancy.isOneLine_message (List.forall_mem_singleton.mpr named)
  · intro name member
    exact nameDifferences_isOneLine left right
      (leftName name (List.mem_of_mem_filter member))

/-! Rule sets of scripts. -/

open Script

/-- The words of a script have no line end. -/
theorem isOneLine_of_isWordText
    {text : String}
    (isWord : IsWordText text) :
    Text.IsOneLine text := by
  obtain ⟨first, more, form, letter, word⟩ := isWord
  rw [Text.IsOneLine, form, List.mem_cons, not_or]
  refine ⟨fun isFeed => ?_, fun inRest => absurd (word '\n' inRest) (by decide)⟩
  rw [← isFeed] at letter
  exact absurd letter (by decide)

theorem isOneLine_of_isRuleName
    {name : String}
    (accepted : isRuleName name = true) :
    Text.IsOneLine name :=
  isOneLine_of_isWordText (isName_of_isRuleName accepted).isWordText

/-- Helper rules are named without line ends if their targets are. -/
theorem isOneLine_helperName
    {name : String}
    (plain : Text.IsOneLine name)
    (number : Nat) :
    Text.IsOneLine (helperName name number) := by
  have digits : Text.IsOneLine (twoDigits number) := by
    intro feed
    exact absurd (isNameCharacter_of_mem_twoDigits feed) (by decide)
  simp only [helperName, isOneLine_append, plain, digits, true_and, and_true]
  exact isOneLine_literal rfl

/-- Unrolled calls have targets without line ends. -/
theorem isOneLine_chainTarget
    {target : Target}
    (spelled : target.IsSpelled)
    (number : Nat)
    (loops : List Loop) :
    Text.IsOneLine (chainTarget target number loops).name := by
  have plain : Text.IsOneLine target.name :=
    isOneLine_of_isWordText (Target.isPlain spelled).whole
  cases loops with
  | nil => exact plain
  | cons loop rest => exact isOneLine_helperName plain number

/--
Whatever a script holds, the names and numerals of its rule set
are one line each.
-/
theorem isOneLine_ofScript
    {script : Script}
    (spelled : script.IsSpelled) :
    (ofScript script).IsOneLine := by
  have scripted := isScripted_of_mem_ofScript spelled
  have numeral (numeral : Numeral)
      (member : numeral ∈ (ofScript script).numerals) :
      Text.IsOneLine numeral.text := by
    intro feed
    exact absurd ((scripted numeral member).numeric '\n' feed) (by decide)
  refine ⟨numeral _ List.mem_cons_self, fun rule inRules => ?_⟩
  have targets (call : Call) (inCalls : call ∈ rule.calls) :
      Text.IsOneLine call.target.name := by
    obtain ⟨site, inSites, rfl | ⟨loop, -, start, rest, rfl⟩⟩ :=
      mem_calls_ofScript inRules inCalls
    · exact isOneLine_chainTarget
        (isSpelled_of_mem_sites spelled inSites).target 0 []
    · exact isOneLine_chainTarget
        (isSpelled_of_mem_sites spelled inSites).target start rest
  have numerals (found : Numeral) (member : found ∈ rule.numerals) :
      Text.IsOneLine found.text :=
    numeral found
      (List.mem_cons_of_mem _ (List.mem_flatMap.mpr ⟨rule, inRules, member⟩))
  rcases mem_unrollRules inRules with
    ⟨start, definition, isDefinition, rfl⟩ | ⟨start, site, inSites, isHelper⟩
  · have defined := isSpelled_of_mem_definitions spelled isDefinition
    exact ⟨isOneLine_of_isRuleName defined.name,
      fun successor isSuccessor =>
        isOneLine_of_isRuleName (defined.successor successor isSuccessor),
      targets, numerals⟩
  · have target := (isSpelled_of_mem_sites spelled inSites).target
    obtain ⟨start, loop, inLoops, rest, rfl⟩ := mem_chainHelpers isHelper
    refine ⟨isOneLine_helperName (isOneLine_chainTarget target 0 []) start, ?_,
      targets, numerals⟩
    intro successor isSuccessor
    cases isSuccessor

end RuleSet

end Eisen
