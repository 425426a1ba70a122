import Eisen.Proofs.RuleSet.Signatures

namespace Eisen

/-!
# Undefined references of two halves

Where the comparison of a script with a description is clean, both of them leave
the same references undefined, and each of them as often as the other. Only the
order of the findings may differ, because the rules of different names may.
-/

/-- The other half of a pair. -/
def Side.opposite : Side → Side
  | .script => .data
  | .data => .script

/--
The same finding about the other half. Findings about both halves
stay as they are.
-/
def Discrepancy.mirrored : Discrepancy → Discrepancy
  | .undefinedRule side caller target =>
      .undefinedRule side.opposite caller target
  | .undefinedSuccessor side rule successor =>
      .undefinedSuccessor side.opposite rule successor
  | finding => finding

namespace Discrepancy

theorem mirrored_involutive : Function.Involutive mirrored := by
  intro finding
  cases finding with
  | undefinedRule side => cases side <;> rfl
  | undefinedSuccessor side => cases side <;> rfl
  | _ => rfl

theorem count_map_mirrored
    (findings : List Discrepancy)
    (finding : Discrepancy) :
    (findings.map mirrored).count finding =
      findings.count finding.mirrored := by
  nth_rewrite 1 [← mirrored_involutive finding]
  exact List.count_map_of_injective findings mirrored
    mirrored_involutive.injective _

end Discrepancy

namespace RuleSet

/-! What is reported, and how often. -/

section

variable
    {ruleSet : RuleSet}
    {side : Side}

/-- An undefined call is reported once for each caller and target. -/
theorem count_undefinedReferences_undefinedRule
    (caller target : String)
    [Decidable (ruleSet.CallsUndefined caller target)] :
    (ruleSet.undefinedReferences side).count
      (.undefinedRule side caller target) =
      if ruleSet.CallsUndefined caller target then 1 else 0 := by
  have reported :
      .undefinedRule side caller target ∈ ruleSet.undefinedReferences side ↔
      ruleSet.CallsUndefined caller target :=
    mem_undefinedReferences_iff.trans exists_arisesAt_undefinedRule_iff
  split_ifs with calls
  · exact Nat.le_antisymm (count_dropRepeated_le_one rfl _ _)
      (List.count_pos_iff.mpr (reported.mpr calls))
  · exact List.count_eq_zero_of_not_mem (mt reported.mp calls)

/-- Only undefined calls and undefined successors are reported. -/
theorem eq_of_mem_undefinedReferences
    {finding : Discrepancy}
    (reported : finding ∈ ruleSet.undefinedReferences side) :
    (∃ caller target, finding = .undefinedRule side caller target) ∨
      ∃ rule successor, finding = .undefinedSuccessor side rule successor := by
  obtain ⟨slot, arises⟩ := mem_undefinedReferences_iff.mp reported
  cases arises with
  | call => exact .inl ⟨_, _, rfl⟩
  | successor => exact .inr ⟨_, _, rfl⟩

end

/-! What is reported depends on the variants of each name. -/

/-- The targets of the calls of the variants of a name. -/
def targetsOf
    (ruleSet : RuleSet)
    (name : String) : List (List Target) :=
  (ruleSet.variants name).map fun rule => rule.calls.map Call.target

theorem callsUndefined_iff_targetsOf
    {ruleSet : RuleSet}
    {caller target : String} :
    ruleSet.CallsUndefined caller target ↔
      (∃ targets ∈ ruleSet.targetsOf caller, .rule target ∈ targets) ∧
        target ∉ ruleSet.names := by
  refine and_congr_left fun _ => ⟨?_, ?_⟩
  · rintro ⟨rule, isRule, isCaller, call, isCall, calls⟩
    refine ⟨_, List.mem_map_of_mem
      (List.mem_filter.mpr ⟨isRule, beq_iff_eq.mpr isCaller⟩), ?_⟩
    exact List.mem_map.mpr ⟨call, isCall, calls⟩
  · rintro ⟨targets, isRow, isTarget⟩
    obtain ⟨rule, isVariant, rfl⟩ := List.mem_map.mp isRow
    obtain ⟨isRule, isCaller⟩ := List.mem_filter.mp isVariant
    exact ⟨rule, isRule, beq_iff_eq.mp isCaller, List.mem_map.mp isTarget⟩

/-- Undefined successors can be counted over the parameters of the variants. -/
theorem countP_successor_eq_countP_variants
    (ruleSet : RuleSet)
    (name successor : String) :
    (ruleSet.rules.countP fun rule =>
        rule.name = name ∧ rule.successor = some successor ∧
          successor ∉ ruleSet.names) =
      ((ruleSet.variants name).map Rule.parameters).countP fun parameters =>
        parameters.successor = some successor ∧ successor ∉ ruleSet.names := by
  rw [List.countP_map, variants, List.countP_filter]
  refine List.countP_congr fun rule _ => ?_
  rw [Bool.and_eq_true, beq_iff_eq, decide_eq_true_iff, Function.comp_apply,
    decide_eq_true_iff]
  exact and_comm

section

variable {left right : RuleSet}

/-- Variants whose calls have the same targets at the same places. -/
theorem RelatesCalls.targetsOf_eq
    (relates :
      left.RelatesCalls (fun call other => call.target = other.target) right)
    (name : String) :
    left.targetsOf name = right.targetsOf name := by
  rw [targetsOf, targetsOf, ← List.forall₂_eq_eq_eq, List.forall₂_map_left_iff,
    List.forall₂_map_right_iff]
  refine (relates name).imp fun rule other calls => ?_
  rwa [← List.forall₂_eq_eq_eq, List.forall₂_map_left_iff,
    List.forall₂_map_right_iff]

/--
Rule sets with the same parameters and targets call the same undefined rules.
-/
theorem SameParameters.callsUndefined_iff
    (same : left.SameParameters right)
    (relates :
      left.RelatesCalls (fun call other => call.target = other.target) right)
    (caller target : String) :
    left.CallsUndefined caller target ↔ right.CallsUndefined caller target := by
  rw [callsUndefined_iff_targetsOf, callsUndefined_iff_targetsOf,
    relates.targetsOf_eq, same.names]

/-- Rule sets with the same parameters have the same undefined successors. -/
theorem SameParameters.countP_successor_eq
    (same : left.SameParameters right)
    (name successor : String) :
    (left.rules.countP fun rule =>
        rule.name = name ∧ rule.successor = some successor ∧
          successor ∉ left.names) =
      right.rules.countP fun rule =>
        rule.name = name ∧ rule.successor = some successor ∧
          successor ∉ right.names := by
  rw [countP_successor_eq_countP_variants, countP_successor_eq_countP_variants,
    same.variants]
  simp only [same.names]

/--
The same parameters and the same targets leave the same references undefined.
-/
theorem SameParameters.perm_undefinedReferences
    (same : left.SameParameters right)
    (relates :
      left.RelatesCalls (fun call other => call.target = other.target) right) :
    ((left.undefinedReferences .script).map Discrepancy.mirrored).Perm
      (right.undefinedReferences .data) := by
  classical
  rw [List.perm_iff_count]
  intro finding
  rw [Discrepancy.count_map_mirrored]
  by_cases ofData :
      (∃ caller target, finding = .undefinedRule .data caller target) ∨
      ∃ rule successor, finding = .undefinedSuccessor .data rule successor
  · rcases ofData with ⟨caller, target, rfl⟩ | ⟨name, successor, rfl⟩
    · simp only [Discrepancy.mirrored, Side.opposite,
        count_undefinedReferences_undefinedRule,
        same.callsUndefined_iff relates]
    · simp only [Discrepancy.mirrored, Side.opposite,
        count_undefinedReferences_undefinedSuccessor]
      exact same.countP_successor_eq name successor
  · -- on both sides only findings about that side are reported
    have notInScript : finding.mirrored ∉ left.undefinedReferences .script := by
      intro reported
      rw [← Discrepancy.mirrored_involutive finding] at ofData
      rcases eq_of_mem_undefinedReferences reported with
        ⟨caller, target, form⟩ | ⟨rule, successor, form⟩
      · exact ofData (.inl ⟨caller, target, congrArg Discrepancy.mirrored form⟩)
      · exact ofData
          (.inr ⟨rule, successor, congrArg Discrepancy.mirrored form⟩)
    rw [List.count_eq_zero_of_not_mem notInScript,
      List.count_eq_zero_of_not_mem (mt eq_of_mem_undefinedReferences ofData)]

end

/--
Where the comparison of a script with a description is clean, the references
that the script leaves undefined are those that the description leaves
undefined, with the same callers and the same number of findings about each.
-/
theorem undefinedReferences_agree_of_clean_comparison
    {source : String}
    {ruleSet : RuleSet}
    (unrolled : ofSource source = .ok ruleSet)
    {content : String}
    {description : Description}
    (isRead : Description.read .embedded content = .ok description)
    (clean : ruleSet.differences description.ruleSet = []) :
    ((ruleSet.undefinedReferences .script).map Discrepancy.mirrored).Perm
      (description.ruleSet.undefinedReferences .data) := by
  have same := (differences_eq_nil_iff_sameParameters _ _).mp clean
  have conforms := Description.conforms_of_read isRead
  obtain ⟨script, accepted, rfl⟩ := exists_script_of_ofSource unrolled
  have spelled := Script.isSpelled_of_ofSource accepted
  refine same.perm_undefinedReferences (same.relatesCalls ?_)
  intro rule inRules call inCalls other inData otherCall inOther sameSignature
  rcases equates_or_isSwallowedBy spelled conforms inRules inCalls
    inData inOther
    sameSignature with equates | swallowed
  · exact equates.target
  · exact swallowed.target

/-- The entry and a rule with a missing successor call a missing rule. -/
def hauntedSource : String :=
  "Ghost rule A md 3 > Gone \x7b 2 * \x7bx 1\x7d Ghost \x7d"

/--
The rules of the script in another order, with a count that swallows the loop.
-/
def hauntedContent : String :=
  "\x7b\"rules\":[\x7b\"name\":\"A\",\"max_depth\":3," ++
    "\"successor\":\"Gone\",\"calls\":[" ++
    "\x7b\"rule\":\"Ghost\",\"count\":\"2 \x7btx 1\x7d\"\x7d]\x7d," ++
    "\x7b\"name\":\"entry\",\"calls\":[\x7b\"rule\":\"Ghost\"\x7d]\x7d]\x7d"

/-- The findings about the two halves stand in different orders. -/
theorem undefinedReferences_agree_in_another_order :
    ∃ ruleSet description,
      ofSource hauntedSource = .ok ruleSet ∧
        Description.read .embedded hauntedContent = .ok description ∧
        ruleSet.differences description.ruleSet = [] ∧
        ((ruleSet.undefinedReferences .script).map Discrepancy.mirrored).Perm
          (description.ruleSet.undefinedReferences .data) ∧
        (ruleSet.undefinedReferences .script).length = 3 ∧
        (ruleSet.undefinedReferences .script).map Discrepancy.mirrored ≠
          description.ruleSet.undefinedReferences .data := by
  let loop : Call := ⟨.rule "Ghost", "tx 1", some ⟨"2"⟩⟩
  let swallowing : Call := ⟨.rule "Ghost", "", some ⟨"2 \x7btx 1\x7d"⟩⟩
  let entry : Rule := ⟨"entry", none, none, none, [⟨.rule "Ghost", "", none⟩]⟩
  let haunted (call : Call) : Rule :=
    ⟨"A", none, some ⟨"3"⟩, some "Gone", [call]⟩
  let ruleSet : RuleSet := ⟨⟨"1000"⟩, [entry, haunted loop]⟩
  let reordered : RuleSet := ⟨⟨"1000"⟩, [haunted loop, entry]⟩
  let description : Description :=
    ⟨none, none, ⟨⟨"1000"⟩, [haunted swallowing, entry]⟩⟩
  have unrolled : ofSource hauntedSource = .ok ruleSet := by decide +kernel
  have isRead : Description.read .embedded hauntedContent = .ok description :=
    eq_ok_of_toOption (by decide +kernel)
  have moved : Reordering ruleSet reordered :=
    ⟨rfl, Equiv.swap 0 1, by decide, by decide⟩
  have swallowed : reordered.SameParameters description.ruleSet :=
    sameParameters_of_map_eq rfl (by decide)
  have clean : ruleSet.differences description.ruleSet = [] :=
    (differences_eq_nil_iff_sameParameters _ _).mpr
      (moved.sameParameters.trans swallowed)
  exact ⟨ruleSet, description, unrolled, isRead, clean,
    undefinedReferences_agree_of_clean_comparison unrolled isRead clean, by
      decide,
    by decide⟩

end RuleSet

end Eisen
