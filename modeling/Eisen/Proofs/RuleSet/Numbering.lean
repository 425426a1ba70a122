import Eisen.Proofs.RuleSet.Names
import Mathlib.Data.List.DropRight

namespace Eisen.RuleSet

/-!
# The numbers of helper rules

A helper rule is named after the target of its call site, which may be called
anything, and after a number that only has its least width fixed. What stands
behind the last underscore of the name is nevertheless the number alone, so it
can be read off the name. One counter runs through all call sites of a script,
and so the numbers that are read off are the numbers from zero on, each once.
-/

/--
The number that a name ends in: what the digits behind its last underscore say.
-/
def endNumber (name : String) : Nat :=
  Nat.ofDigitChars 10 (name.toList.rtakeWhile (· != '_')) 0

/--
The rules of a script's definitions, entry calls first, each with
its helper rules.
-/
def scriptBlocks (script : Script) : List (Rule × List Rule) :=
  blocksFrom 0 (entryDefinition script :: script.rules)

/-- The helper rules of a script, in the order of the rule set. -/
def helperRules (script : Script) : List Rule :=
  (scriptBlocks script).flatMap Prod.snd

/-! Reading a number off a name. -/

theorem toList_twoDigits (number : Nat) :
    (twoDigits number).toList =
      if number < 10 then
        '0' :: Nat.toDigits 10 number
      else
        Nat.toDigits 10 number := by
  unfold twoDigits
  split
  · simp
  · simp

theorem underscore_not_mem_twoDigits (number : Nat) :
    '_' ∉ (twoDigits number).toList := by
  have digits : '_' ∉ Nat.toDigits 10 number := Nat.underscore_not_in_toDigits
  rw [toList_twoDigits]
  split
  · exact List.not_mem_cons_of_ne_of_not_mem (by decide) digits
  · exact digits

/--
The zero that fills a number up to two digits does not change what they say.
-/
theorem ofDigitChars_twoDigits (number : Nat) :
    Nat.ofDigitChars 10 (twoDigits number).toList 0 = number := by
  have digits : Nat.ofDigitChars 10 (Nat.toDigits 10 number) 0 = number :=
    Nat.ofDigitChars_ten_toDigits
  rw [toList_twoDigits]
  split
  · exact digits
  · exact digits

/--
The number of a helper rule can be read off its name, whatever its
target is called.
-/
theorem endNumber_helperName
    (target : String)
    (number : Nat) :
    endNumber (helperName target number) = number := by
  have form : (helperName target number).toList.reverse =
      (twoDigits number).toList.reverse ++ '_' :: target.toList.reverse := by
    simp [helperName]
  have digits : ∀ character ∈ (twoDigits number).toList.reverse,
      (character != '_') = true := by
    intro character member
    apply bne_iff_ne.mpr
    rintro rfl
    exact underscore_not_mem_twoDigits number (List.mem_reverse.mp member)
  have behind : (helperName target number).toList.rtakeWhile (· != '_') =
      (twoDigits number).toList := by
    rw [List.rtakeWhile, form, List.takeWhile_append_of_pos digits]
    simp
  rw [endNumber, behind, ofDigitChars_twoDigits]

/-! Counting through a script. -/

/-- The helper rules of one call site take the next numbers. -/
theorem endNumbers_site
    (number : Nat)
    (site : CallSite) :
    ((List.range (helperCount site)).map fun index =>
        helperName site.target.name (number + index)).map endNumber =
      List.range' number (helperCount site) := by
  simp only [List.map_map, Function.comp_def, endNumber_helperName]
  exact (List.range'_eq_map_range ..).symm

/--
The helper rules of some call sites take the next numbers, one site
after the other.
-/
theorem endNumbers_helperNames
    (number : Nat)
    (sites : List CallSite) :
    (helperNames number sites).map endNumber =
      List.range' number (bodyHelperCount sites) := by
  induction sites generalizing number with
  | nil => rfl
  | cons site rest inductionHypothesis =>
      rw [helperNames, List.map_append, endNumbers_site, inductionHypothesis,
        bodyHelperCount]
      exact List.range'_append_1 ..

/-- The helper rules of some definitions are those of their call sites. -/
theorem names_blocksFrom
    (number : Nat)
    (definitions : List RuleDefinition) :
    ((blocksFrom number definitions).flatMap Prod.snd).map Rule.name =
      helperNames number (definitions.flatMap RuleDefinition.body) := by
  induction definitions generalizing number with
  | nil => rfl
  | cons definition rest inductionHypothesis =>
      rw [blocksFrom, List.flatMap_cons, List.map_append,
        names_unrollBody_helpers, inductionHypothesis, List.flatMap_cons,
        helperNames_append]

/--
The helper rules of a script are named after its call sites, one counter running
through them.
-/
theorem names_helperRules (script : Script) :
    (helperRules script).map Rule.name = helperNames 0 script.sites :=
  names_blocksFrom 0 (entryDefinition script :: script.rules)

/-- Each definition has its own block. -/
theorem forall₂_blocksFrom
    (number : Nat)
    (definitions : List RuleDefinition) :
    List.Forall₂
      (fun definition block => ∃ start,
        UnrollsDefinition start definition block.1 block.2)
      definitions (blocksFrom number definitions) := by
  induction definitions generalizing number with
  | nil => exact .nil
  | cons definition rest inductionHypothesis =>
      exact .cons ⟨number, unrollsDefinition_unrolledRule number definition⟩
        (inductionHypothesis _)

/--
The rules of a script are those of its definitions, each with its helper rules
behind it. The numbers of all helper rules are the numbers from zero on, in
order, so no two helper rules have the same name; and each call site has one
helper rule less than it has loops.
-/
theorem helper_rules_have_distinct_names (script : Script) :
    (ofScript script).rules =
      (scriptBlocks script).flatMap (fun block => block.1 :: block.2) ∧
      List.Forall₂
        (fun definition block => ∃ start,
          UnrollsDefinition start definition block.1 block.2)
        (entryDefinition script :: script.rules) (scriptBlocks script) ∧
      ((helperRules script).map Rule.name).Nodup ∧
      (helperRules script).length =
        (script.sites.map fun site => site.loops.length - 1).sum ∧
      ((helperRules script).map Rule.name).map endNumber =
        List.range (helperRules script).length := by
  have numbers : ((helperRules script).map Rule.name).map endNumber =
      List.range' 0 (bodyHelperCount script.sites) := by
    rw [names_helperRules, endNumbers_helperNames]
  have counted :
      (helperRules script).length = bodyHelperCount script.sites := by
    simpa using congrArg List.length numbers
  refine ⟨unrollRules_eq_blocks 0 _, forall₂_blocksFrom 0 _, ?_, ?_, ?_⟩
  · apply List.Nodup.of_map endNumber
    rw [numbers]
    exact List.nodup_range'
  · rw [counted, bodyHelperCount_eq_sum]
  · rw [numbers, counted, List.range_eq_range']

end Eisen.RuleSet
