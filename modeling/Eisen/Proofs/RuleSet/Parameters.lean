import Eisen.RuleSet.Comparison
import Mathlib.Data.List.FinRange
import Mathlib.Logic.Equiv.Basic

namespace Eisen

/-!
# The parameters of rule sets

A comparison finds nothing exactly where two rule sets have the same parameters:
the depth limit, the names, and for each name the parameters of its variants in
the order of their definition. The order of rules with different names does not
belong to the parameters.
-/

/--
What is compared of a rule: its numbers, its successor and its calls, as texts.
-/
structure RuleParameters where
  weight : Option String
  maxDepth : Option String
  successor : Option String
  calls : List String
  deriving DecidableEq

/-- The parameters of a rule. -/
def Rule.parameters (rule : Rule) : RuleParameters where
  weight := rule.weight.map Numeral.canonical
  maxDepth := rule.maxDepth.map Numeral.canonical
  successor := rule.successor
  calls := rule.calls.map Call.signature

/--
Two rule sets have the same depth limit, the same names, and the same
variants of each name.
-/
structure RuleSet.SameParameters (left right : RuleSet) : Prop where
  maxDepth : left.maxDepth.canonical = right.maxDepth.canonical
  names : ∀ name, name ∈ left.names ↔ name ∈ right.names
  variants : ∀ name,
    (left.variants name).map Rule.parameters =
      (right.variants name).map Rule.parameters

/-! Differences. -/

namespace Rule

/-- A parameter is found to differ exactly where it does. -/
theorem parameterDifference_eq_nil_iff
    (rule : String)
    (variant : Nat)
    (parameter : Parameter)
    (script data : Option String) :
    parameterDifference rule variant parameter script data = [] ↔
      script = data := by
  simp [parameterDifference]

/-- Lengths that are written alike are equal. -/
theorem length_eq_of_toString_eq
    {α : Type}
    {left right : List α}
    (same : toString left.length = toString right.length) :
    left.length = right.length := by
  have digits := congrArg String.toList same
  rw [Nat.toString_eq_repr, Nat.toString_eq_repr, Nat.toList_repr,
    Nat.toList_repr] at digits
  have numbers := congrArg (Nat.ofDigitChars 10 · 0) digits
  rwa [Nat.ofDigitChars_ten_toDigits, Nat.ofDigitChars_ten_toDigits] at numbers

/--
Only calls that stand side by side are compared, so the lengths
have to agree first.
-/
theorem callDifferences_eq_nil_iff
    {rule : String}
    {variant index : Nat}
    {scripts datas : List Call}
    (sameLength : scripts.length = datas.length) :
    callDifferences rule variant index scripts datas = [] ↔
      scripts.map Call.signature = datas.map Call.signature := by
  induction scripts generalizing datas index with
  | nil =>
      rw [List.length_eq_zero_iff.mp sameLength.symm]
      simp [callDifferences]
  | cons script rest inductionHypothesis =>
      cases datas with
      | nil => cases sameLength
      | cons data others =>
          have shorter : rest.length = others.length := Nat.succ.inj sameLength
          rw [callDifferences, List.map_cons, List.map_cons, List.cons.injEq]
          by_cases same : script.signature = data.signature
          · simp only [same, if_true, true_and]
            exact inductionHypothesis shorter
          · simp [same]

/-- Two variants are found to differ exactly where their parameters do. -/
theorem differences_eq_nil_iff
    (variant : Nat)
    (script data : Rule) :
    differences variant script data = [] ↔
      script.parameters = data.parameters := by
  simp only [differences, List.append_eq_nil_iff,
    parameterDifference_eq_nil_iff, Option.some.injEq, parameters,
    RuleParameters.mk.injEq, and_assoc]
  refine and_congr_right fun _ => and_congr_right fun _ =>
    and_congr_right fun _ => ⟨?_, ?_⟩
  · rintro ⟨sameCount, sameCalls⟩
    exact (callDifferences_eq_nil_iff (length_eq_of_toString_eq sameCount)).mp
      sameCalls
  · intro sameCalls
    have sameLength : script.calls.length = data.calls.length := by
      simpa using congrArg List.length sameCalls
    exact ⟨by
      rw [sameLength], (callDifferences_eq_nil_iff sameLength).mpr sameCalls⟩

/--
Variants in the same number are found to differ exactly where their parameters
do.
-/
theorem variantDifferences_eq_nil_iff
    {variant : Nat}
    {scripts datas : List Rule}
    (sameLength : scripts.length = datas.length) :
    variantDifferences variant scripts datas = [] ↔
      scripts.map parameters = datas.map parameters := by
  induction scripts generalizing datas variant with
  | nil =>
      rw [List.length_eq_zero_iff.mp sameLength.symm]
      simp [variantDifferences]
  | cons script rest inductionHypothesis =>
      cases datas with
      | nil => cases sameLength
      | cons data others =>
          rw [variantDifferences, List.append_eq_nil_iff,
            differences_eq_nil_iff,
            inductionHypothesis (Nat.succ.inj sameLength), List.map_cons,
            List.map_cons, List.cons.injEq]

end Rule

namespace RuleSet

/-- Sorting keeps the names of a rule set. -/
theorem mem_sortedNames_iff
    (ruleSet : RuleSet)
    (name : String) :
    name ∈ ruleSet.sortedNames ↔ name ∈ ruleSet.names := by
  simp [sortedNames, Text.sortBy]

theorem defines_iff
    (ruleSet : RuleSet)
    (name : String) :
    ruleSet.defines name = true ↔ name ∈ ruleSet.names :=
  List.contains_iff_mem

/-- A name has no variant exactly where no rule has it. -/
theorem variants_eq_nil_iff
    (ruleSet : RuleSet)
    (name : String) :
    ruleSet.variants name = [] ↔ name ∉ ruleSet.names := by
  simp [variants, names, List.filter_eq_nil_iff]

/--
A name is found to differ exactly where the parameters of its variants do.
-/
theorem nameDifferences_eq_nil_iff
    (script data : RuleSet)
    (name : String) :
    nameDifferences script data name = [] ↔
      (script.variants name).map Rule.parameters =
        (data.variants name).map Rule.parameters := by
  rw [nameDifferences]
  by_cases sameLength :
      (script.variants name).length = (data.variants name).length
  · simp only [sameLength, if_true]
    exact Rule.variantDifferences_eq_nil_iff sameLength
  · simp only [sameLength, if_false, List.cons_ne_nil, false_iff]
    intro same
    exact sameLength (by simpa using congrArg List.length same)

/-- The names that only one side has. -/
theorem filter_sortedNames_eq_nil_iff (left right : RuleSet) :
    (left.sortedNames.filter fun name => !right.defines name) = [] ↔
      ∀ name ∈ left.names, name ∈ right.names := by
  simp [List.filter_eq_nil_iff, mem_sortedNames_iff, ← defines_iff]

/-- A comparison finds nothing exactly where the parameters are the same. -/
theorem differences_eq_nil_iff_sameParameters (left right : RuleSet) :
    left.differences right = [] ↔ left.SameParameters right := by
  have depths :
      (if left.maxDepth.agrees right.maxDepth then
          ([] : List Discrepancy)
        else
          [.maxDepthMismatch left.maxDepth.canonical
            right.maxDepth.canonical]) = [] ↔
        left.maxDepth.canonical = right.maxDepth.canonical := by
    simp [Numeral.agrees]
  have shared : (left.sortedNames.filter right.defines).flatMap
      (nameDifferences left right) = [] ↔
      ∀ name ∈ left.names, name ∈ right.names →
        (left.variants name).map Rule.parameters =
          (right.variants name).map Rule.parameters := by
    simp only [List.flatMap_eq_nil_iff, List.mem_filter, mem_sortedNames_iff,
      defines_iff, nameDifferences_eq_nil_iff, and_imp]
  simp only [differences, List.append_eq_nil_iff, List.map_eq_nil_iff,
    filter_sortedNames_eq_nil_iff, depths, shared]
  constructor
  · rintro ⟨⟨⟨sameDepth, inRight⟩, inLeft⟩, sameVariants⟩
    refine ⟨sameDepth, fun name => ⟨inRight name, inLeft name⟩, fun name => ?_⟩
    by_cases member : name ∈ left.names
    · exact sameVariants name member (inRight name member)
    · have absent : name ∉ right.names :=
        fun other => member (inLeft name other)
      rw [(left.variants_eq_nil_iff name).mpr member,
        (right.variants_eq_nil_iff name).mpr absent]
  · intro same
    exact ⟨⟨⟨same.maxDepth, fun name => (same.names name).mp⟩,
        fun name => (same.names name).mpr⟩,
      fun name _ _ => same.variants name⟩

/-! The relation. -/

namespace SameParameters

variable {left middle right : RuleSet}

theorem refl (ruleSet : RuleSet) : ruleSet.SameParameters ruleSet :=
  ⟨rfl, fun _ => Iff.rfl, fun _ => rfl⟩

theorem symm (same : left.SameParameters right) : right.SameParameters left :=
  ⟨same.maxDepth.symm, fun name => (same.names name).symm,
    fun name => (same.variants name).symm⟩

theorem trans
    (first : left.SameParameters middle)
    (second : middle.SameParameters right) :
    left.SameParameters right :=
  ⟨first.maxDepth.trans second.maxDepth,
    fun name => (first.names name).trans (second.names name),
    fun name => (first.variants name).trans (second.variants name)⟩

end SameParameters

theorem equivalence_sameParameters : Equivalence SameParameters :=
  ⟨SameParameters.refl, SameParameters.symm, SameParameters.trans⟩

end RuleSet

/-! Rule sets that differ in the spelling of numbers only. -/

/-- Lists that agree item by item have the same views. -/
theorem map_eq_map_of_listAgrees
    {α β : Type}
    {agrees : α → α → Bool}
    {view : α → β}
    (sameView : ∀ left right, agrees left right = true → view left = view right)
    {lefts rights : List α}
    (agree : listAgrees agrees lefts rights = true) :
    lefts.map view = rights.map view := by
  induction lefts generalizing rights with
  | nil =>
      cases rights with
      | nil => rfl
      | cons right others => cases agree
  | cons left rest inductionHypothesis =>
      cases rights with
      | nil => cases agree
      | cons right others =>
          rw [listAgrees, Bool.and_eq_true] at agree
          rw [List.map_cons, List.map_cons, sameView left right agree.1,
            inductionHypothesis agree.2]

/-- Optional numerals agree exactly where their canonical forms are equal. -/
theorem Numeral.map_canonical_eq_iff_optionAgrees
    (left right : Option Numeral) :
    left.map canonical = right.map canonical ↔
      optionAgrees left right = true := by
  cases left <;> cases right <;> simp [optionAgrees, agrees]

/-- Calls that agree have the same signature. -/
theorem Call.signature_eq_of_agrees
    (left right : Call)
    (agree : left.agrees right = true) :
    left.signature = right.signature := by
  simp only [Call.agrees, Bool.and_eq_true, beq_iff_eq,
    ← Numeral.map_canonical_eq_iff_optionAgrees] at agree
  obtain ⟨target, transforms, count⟩ := left
  obtain ⟨_, _, other⟩ := right
  obtain ⟨⟨rfl, rfl⟩, sameCount⟩ := agree
  cases count with
  | none =>
      cases other with
      | none => rfl
      | some other => cases sameCount
  | some count =>
      cases other with
      | none => cases sameCount
      | some other =>
          have same : count.canonical = other.canonical :=
            Option.some.inj sameCount
          simp only [signature, same]
          rfl

/-- Rules that agree have the same name and the same parameters. -/
theorem Rule.parameters_eq_of_agrees
    (left right : Rule)
    (agree : left.agrees right = true) :
    (left.name, left.parameters) = (right.name, right.parameters) := by
  simp only [Rule.agrees, Bool.and_eq_true, beq_iff_eq,
    ← Numeral.map_canonical_eq_iff_optionAgrees] at agree
  obtain ⟨⟨⟨⟨sameName, sameWeight⟩, sameDepth⟩, sameSuccessor⟩, sameCalls⟩ :=
    agree
  rw [Rule.parameters, Rule.parameters, sameName, sameWeight, sameDepth,
    sameSuccessor,
    map_eq_map_of_listAgrees Call.signature_eq_of_agrees sameCalls]

namespace RuleSet

/--
The names and variants of a rule set only depend on the named
parameters of its rules.
-/
theorem sameParameters_of_map_eq
    {left right : RuleSet}
    (sameDepth : left.maxDepth.canonical = right.maxDepth.canonical)
    (sameRules : left.rules.map (fun rule => (rule.name, rule.parameters)) =
      right.rules.map fun rule => (rule.name, rule.parameters)) :
    left.SameParameters right := by
  have view (ruleSet : RuleSet) (name : String) :
      (ruleSet.variants name).map Rule.parameters =
        ((ruleSet.rules.map fun rule => (rule.name, rule.parameters)).filter
          fun named => named.1 == name).map Prod.snd := by
    simp [variants, List.filter_map, Function.comp_def]
  have sameNames : left.names = right.names := by
    simpa [names,
      Function.comp_def] using congrArg (List.map Prod.fst) sameRules
  exact ⟨sameDepth, fun name => by rw [sameNames], fun name => by
    rw [view, view, sameRules]⟩

/-- Rule sets that agree have the same parameters. -/
theorem sameParameters_of_agrees
    {left right : RuleSet}
    (agree : left.agrees right = true) :
    left.SameParameters right := by
  simp only [agrees, Bool.and_eq_true, Numeral.agrees, beq_iff_eq] at agree
  exact sameParameters_of_map_eq agree.1
    (map_eq_map_of_listAgrees Rule.parameters_eq_of_agrees agree.2)

/-! Rule sets in another order. -/

/--
The same rules in another order, in which rules of one name follow each
other as before.
-/
structure Reordering (left right : RuleSet) where
  maxDepth : left.maxDepth = right.maxDepth
  move : Fin left.rules.length ≃ Fin right.rules.length
  moved : ∀ index, right.rules.get (move index) = left.rules.get index
  inOrder : ∀ first second, first < second →
    (left.rules.get first).name = (left.rules.get second).name →
      move first < move second

/-- The places of the rules of one name. -/
def placesOf
    (ruleSet : RuleSet)
    (name : String) : List (Fin ruleSet.rules.length) :=
  (List.finRange ruleSet.rules.length).filter fun index =>
    (ruleSet.rules.get index).name == name

/-- The places of a name are those where a rule has it. -/
theorem mem_placesOf_iff
    (ruleSet : RuleSet)
    (name : String)
    (index : Fin ruleSet.rules.length) :
    index ∈ ruleSet.placesOf name ↔ (ruleSet.rules.get index).name = name := by
  simp [placesOf]

theorem pairwise_placesOf
    (ruleSet : RuleSet)
    (name : String) :
    (ruleSet.placesOf name).Pairwise (· < ·) :=
  (List.pairwise_lt_finRange _).filter _

/-- The variants of a name are the rules at its places. -/
theorem variants_eq_map_placesOf
    (ruleSet : RuleSet)
    (name : String) :
    ruleSet.variants name = (ruleSet.placesOf name).map ruleSet.rules.get := by
  have whole := List.map_get_finRange ruleSet.rules
  rw [variants, placesOf]
  nth_rewrite 1 [← whole]
  rw [List.filter_map]
  rfl

namespace Reordering

variable {left right : RuleSet}

/-- Moving the places of a name gives its places again, in order. -/
theorem map_placesOf
    (reordering : Reordering left right)
    (name : String) :
    (left.placesOf name).map reordering.move = right.placesOf name := by
  have inOrder :
      ((left.placesOf name).map reordering.move).Pairwise (· < ·) := by
    rw [List.pairwise_map]
    refine (left.pairwise_placesOf name).imp_of_mem
      fun {first second} isFirst isSecond before => ?_
    rw [mem_placesOf_iff] at isFirst isSecond
    exact reordering.inOrder first second before (isFirst.trans isSecond.symm)
  have sameMembers : ∀ place,
      place ∈ (left.placesOf name).map reordering.move ↔
        place ∈ right.placesOf name := by
    intro place
    obtain ⟨index, rfl⟩ := reordering.move.surjective place
    rw [List.mem_map_of_injective reordering.move.injective, mem_placesOf_iff,
      mem_placesOf_iff, reordering.moved]
  have distinct {places : List (Fin right.rules.length)}
      (ordered : places.Pairwise (· < ·)) :
      places.Nodup :=
    ordered.imp fun before => before.ne
  have permuted := (List.perm_ext_iff_of_nodup (distinct inOrder)
    (distinct (right.pairwise_placesOf name))).mpr sameMembers
  exact permuted.eq_of_pairwise
    (fun _ _ _ _ before after => absurd before after.asymm) inOrder
    (right.pairwise_placesOf name)

/-- Reordering keeps the variants of each name. -/
theorem variants_eq
    (reordering : Reordering left right)
    (name : String) :
    left.variants name = right.variants name := by
  rw [variants_eq_map_placesOf, variants_eq_map_placesOf,
    ← reordering.map_placesOf, List.map_map]
  exact List.map_congr_left fun index _ => (reordering.moved index).symm

/-- Reordering keeps the parameters. -/
theorem sameParameters (reordering : Reordering left right) :
    left.SameParameters right := by
  refine ⟨by rw [reordering.maxDepth], fun name => ?_, fun name => by
    rw [reordering.variants_eq]⟩
  rw [← not_iff_not, ← variants_eq_nil_iff, ← variants_eq_nil_iff,
    reordering.variants_eq]

end Reordering

/--
A comparison finds nothing exactly where the parameters are the same. So finding
nothing is an equivalence relation, it holds where the rule sets agree, and it
does not depend on the order of rules with different names.
-/
theorem differences_decide_parameters :
    (∀ left right : RuleSet,
      left.differences right = [] ↔ left.SameParameters right) ∧
      (Equivalence fun left right : RuleSet => left.differences right = []) ∧
      (∀ left right : RuleSet,
        left.agrees right = true → left.differences right = []) ∧
      ∀ {left left' right right' : RuleSet},
        Reordering left left' → Reordering right right' →
        (left.differences right = [] ↔ left'.differences right' = []) := by
  have decides := differences_eq_nil_iff_sameParameters
  refine ⟨decides, ?_, fun left right agree => (decides left right).mpr ?_, ?_⟩
  · simp only [decides]
    exact equivalence_sameParameters
  · exact sameParameters_of_agrees agree
  · intro left left' right right' first second
    rw [decides, decides]
    have sameLeft := first.sameParameters
    have sameRight := second.sameParameters
    constructor
    · intro same
      exact (sameLeft.symm.trans same).trans sameRight
    · intro same
      exact (sameLeft.trans same).trans sameRight.symm

/-- A rule may pass one of another name, but no variant may pass another one. -/
theorem differences_of_passed_rule :
    differences
        ⟨⟨"100"⟩, [⟨"a", none, none, none, []⟩, ⟨"b", none, none, some "a", []⟩,
          ⟨"a", some ⟨"3"⟩, none, none, []⟩]⟩
        ⟨⟨"1e2"⟩,
          [⟨"a", none, none, none, []⟩, ⟨"a", some ⟨"3.0"⟩, none, none, []⟩,
          ⟨"b", none, none, some "a", []⟩]⟩ = [] ∧
      differences
        ⟨⟨"100"⟩,
          [⟨"a", none, none, none, []⟩, ⟨"a", some ⟨"3"⟩, none, none, []⟩]⟩
        ⟨⟨"100"⟩, [⟨"a", some ⟨"3"⟩, none, none, []⟩,
            ⟨"a", none, none, none, []⟩]⟩ ≠ [] := by
  obtain ⟨decides, equivalent, agrees, reorders⟩ :=
    differences_decide_parameters
  constructor
  · let before : RuleSet := ⟨⟨"100"⟩, [⟨"a", none, none, none, []⟩,
      ⟨"b", none, none, some "a", []⟩, ⟨"a", some ⟨"3"⟩, none, none, []⟩]⟩
    let after : RuleSet := ⟨⟨"100"⟩, [⟨"a", none, none, none, []⟩,
      ⟨"a", some ⟨"3"⟩, none, none, []⟩, ⟨"b", none, none, some "a", []⟩]⟩
    let move : Fin 3 ≃ Fin 3 := .swap 1 2
    have unmoved : Reordering before before :=
      ⟨rfl, .refl _, fun _ => rfl, fun _ _ earlier _ => earlier⟩
    have moved : Reordering before after := ⟨rfl, move, by decide, by decide⟩
    have found : before.differences after = [] :=
      (reorders unmoved moved).mp (equivalent.refl before)
    exact equivalent.trans found (agrees after _ (by decide))
  · rw [ne_eq, decides]
    intro same
    exact absurd (same.variants "a") (by decide)

end RuleSet

end Eisen
