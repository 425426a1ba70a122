import Eisen.Proofs.RuleSet.Parameters
import Mathlib.Data.List.Forall2
import Mathlib.Data.List.ReduceOption

namespace Eisen.RuleSet

/-!
# Undefined references

A rule set refers to rules by the targets of its calls and by the successors of
its definitions. This module says which of these references are reported as
undefined, how often each of them is, and in which order the findings stand.
-/

/-- A call of a definition, or its successor, which stands behind the calls. -/
structure Slot where
  definition : Nat
  position : Nat
  deriving DecidableEq

/--
An earlier definition comes first, then an earlier position in the definition.
-/
def Slot.Before (first second : Slot) : Prop :=
  first.definition < second.definition ∨
    first.definition = second.definition ∧ first.position < second.position

/-- A finding arises at a place that refers to a rule that is not there. -/
inductive ArisesAt
    (ruleSet : RuleSet)
    (side : Side) :
    Slot → Discrepancy → Prop
  | call {definition position : Nat} {rule : Rule} {call : Call}
    {target : String} :
      ruleSet.rules[definition]? = some rule →
      rule.calls[position]? = some call →
      call.target = .rule target →
      target ∉ ruleSet.names →
      ArisesAt ruleSet side ⟨definition, position⟩
        (.undefinedRule side rule.name target)
  | successor {definition : Nat} {rule : Rule} {successor : String} :
      ruleSet.rules[definition]? = some rule →
      rule.successor = some successor →
      successor ∉ ruleSet.names →
      ArisesAt ruleSet side ⟨definition, rule.calls.length⟩
        (.undefinedSuccessor side rule.name successor)

/-! The references of one rule. -/

/-- The finding about the successor of a rule, if it is undefined. -/
def undefinedSuccessor?
    (ruleSet : RuleSet)
    (side : Side)
    (rule : Rule) :
    Option Discrepancy :=
  (rule.successor.filter fun name => !ruleSet.defines name).map
    (.undefinedSuccessor side rule.name)

/-- What each slot of a rule gives. -/
def row
    (ruleSet : RuleSet)
    (side : Side)
    (rule : Rule) :
    List (Option Discrepancy) :=
  rule.calls.map (ruleSet.undefinedTarget? side rule.name) ++
    [ruleSet.undefinedSuccessor? side rule]

section

variable
    {ruleSet : RuleSet}
    {side : Side}

theorem defines_eq_false_iff (name : String) :
    ruleSet.defines name = false ↔ name ∉ ruleSet.names := by
  rw [← defines_iff, Bool.not_eq_true]

/--
A call is reported exactly where its target is a rule without a definition.
-/
theorem undefinedTarget?_eq_some_iff
    {caller : String}
    {call : Call}
    {finding : Discrepancy} :
    ruleSet.undefinedTarget? side caller call = some finding ↔
      ∃ target, call.target = .rule target ∧ target ∉ ruleSet.names ∧
        finding = .undefinedRule side caller target := by
  unfold undefinedTarget?
  cases call.target with
  | shape name => simp
  | rule name =>
      simp only [Target.rule.injEq, exists_eq_left', ← defines_eq_false_iff]
      cases ruleSet.defines name <;> simp [eq_comm]

/-- A successor is reported exactly where it has no definition. -/
theorem undefinedSuccessor?_eq_some_iff
    {rule : Rule}
    {finding : Discrepancy} :
    ruleSet.undefinedSuccessor? side rule = some finding ↔
      ∃ successor, rule.successor = some successor ∧ successor ∉ ruleSet.names ∧
        finding = .undefinedSuccessor side rule.name successor := by
  simp only [undefinedSuccessor?, Option.map_eq_some_iff,
    Option.filter_eq_some_iff, Bool.not_eq_true', defines_eq_false_iff,
    and_assoc, eq_comm (a := finding)]

theorem undefinedIn_eq_reduceOption (rule : Rule) :
    ruleSet.undefinedIn side rule = (ruleSet.row side rule).reduceOption := by
  obtain ⟨name, weight, maxDepth, successor, calls⟩ := rule
  rw [row, List.reduceOption_append, undefinedIn]
  congr 1
  · simp [List.reduceOption, List.filterMap_map]
  · cases successor with
    | none => rfl
    | some successor =>
        cases isDefined : ruleSet.defines successor <;>
          simp [undefinedSuccessor?, isDefined, Option.filter]

/-- A finding stands in a slot exactly if it arises there. -/
theorem arisesAt_iff_row
    {slot : Slot}
    {finding : Discrepancy} :
    ruleSet.ArisesAt side slot finding ↔
      ∃ rule, ruleSet.rules[slot.definition]? = some rule ∧
        (ruleSet.row side rule)[slot.position]? = some (some finding) := by
  constructor
  · intro arises
    cases arises with
    | call isRule isCall targets undefined =>
        refine ⟨_, isRule, ?_⟩
        have inCalls := (List.getElem?_eq_some_iff.mp isCall).1
        rw [row, List.getElem?_append_left (by simpa using inCalls),
          List.getElem?_map, isCall, Option.map_some,
          undefinedTarget?_eq_some_iff.mpr ⟨_, targets, undefined, rfl⟩]
    | successor isRule named undefined =>
        refine ⟨_, isRule, ?_⟩
        rw [row, List.getElem?_append_right (by simp), List.length_map,
          Nat.sub_self,
          undefinedSuccessor?_eq_some_iff.mpr ⟨_, named, undefined, rfl⟩]
        rfl
  · rintro ⟨rule, isRule, inSlot⟩
    obtain ⟨definition, position⟩ := slot
    rcases Nat.lt_or_ge position rule.calls.length with inCalls | behind
    · rw [row, List.getElem?_append_left (by simpa using inCalls),
        List.getElem?_map, Option.map_eq_some_iff] at inSlot
      obtain ⟨call, isCall, isFinding⟩ := inSlot
      obtain ⟨target, targets, undefined, rfl⟩ :=
        undefinedTarget?_eq_some_iff.mp isFinding
      exact .call isRule isCall targets undefined
    · rw [row, List.getElem?_append_right (by simpa using behind),
        List.length_map, List.getElem?_singleton] at inSlot
      obtain ⟨atEnd, isFinding⟩ := Option.ite_none_right_eq_some.mp inSlot
      simp only at atEnd
      obtain ⟨successor, named, undefined, rfl⟩ :=
        undefinedSuccessor?_eq_some_iff.mp (Option.some.inj isFinding)
      obtain rfl : position = rule.calls.length := by omega
      exact .successor isRule named undefined

/-! All references with their slots. -/

/-- The findings of a row, each with its slot. -/
def locatedIn
    (definition : Nat)
    (row : List (Option Discrepancy)) :
    List (Slot × Discrepancy) :=
  row.zipIdx.filterMap fun entry => entry.1.map (⟨definition, entry.2⟩, ·)

/--
The findings of all rows, each with its slot, before repetitions are dropped.
-/
def located
    (ruleSet : RuleSet)
    (side : Side) :
    List (Slot × Discrepancy) :=
  ruleSet.rules.zipIdx.flatMap fun rule =>
    locatedIn rule.2 (ruleSet.row side rule.1)

theorem map_snd_locatedIn
    (definition : Nat)
    (row : List (Option Discrepancy)) :
    (locatedIn definition row).map Prod.snd = row.reduceOption := by
  calc (locatedIn definition row).map Prod.snd
      = row.zipIdx.filterMap (id ∘ Prod.fst) := by
        rw [locatedIn, List.map_filterMap]
        simp [Option.map_map, Function.comp_def]
    _ = row.reduceOption := by
      rw [← List.filterMap_map, List.zipIdx_map_fst, List.reduceOption]

theorem map_snd_located :
    (ruleSet.located side).map Prod.snd =
      ruleSet.rules.flatMap (ruleSet.undefinedIn side) := by
  calc (ruleSet.located side).map Prod.snd
      = (ruleSet.rules.zipIdx.map Prod.fst).flatMap
        (ruleSet.undefinedIn side) := by
        simp only [located, List.map_flatMap, map_snd_locatedIn,
          ← undefinedIn_eq_reduceOption, List.flatMap_map]
    _ = ruleSet.rules.flatMap (ruleSet.undefinedIn side) := by
      rw [List.zipIdx_map_fst]

/-- A finding of a row is located at its position. -/
theorem mem_locatedIn_iff
    {definition : Nat}
    {row : List (Option Discrepancy)}
    {slot : Slot}
    {finding : Discrepancy} :
    (slot, finding) ∈ locatedIn definition row ↔
      slot.definition = definition ∧
        row[slot.position]? = some (some finding) := by
  obtain ⟨inDefinition, position⟩ := slot
  simp only [locatedIn, List.mem_filterMap, List.mem_zipIdx_iff_getElem?,
    Option.map_eq_some_iff, Prod.mk.injEq, Slot.mk.injEq]
  constructor
  · rintro ⟨⟨entry, number⟩, isEntry, _, rfl, ⟨rfl, rfl⟩, rfl⟩
    exact ⟨rfl, isEntry⟩
  · rintro ⟨rfl, isEntry⟩
    exact ⟨(some finding, position), isEntry, finding, rfl, ⟨rfl, rfl⟩, rfl⟩

/-- A finding is located exactly where it arises. -/
theorem mem_located_iff
    {slot : Slot}
    {finding : Discrepancy} :
    (slot, finding) ∈ ruleSet.located side ↔
      ruleSet.ArisesAt side slot finding := by
  simp only [located, List.mem_flatMap, List.mem_zipIdx_iff_getElem?,
    mem_locatedIn_iff, arisesAt_iff_row]
  constructor
  · rintro ⟨⟨rule, definition⟩, isRule, rfl, inSlot⟩
    exact ⟨rule, isRule, inSlot⟩
  · rintro ⟨rule, isRule, inSlot⟩
    exact ⟨(rule, slot.definition), isRule, rfl, inSlot⟩

/-- The numbers of the items of a list increase. -/
theorem pairwise_zipIdx
    {α : Type}
    (items : List α) :
    items.zipIdx.Pairwise fun first second => first.2 < second.2 := by
  rw [← List.pairwise_map, List.zipIdx_map_snd]
  exact List.pairwise_lt_range' 1

theorem pairwise_located :
    (ruleSet.located side).Pairwise fun first second =>
      first.1.Before second.1 := by
  rw [located, List.pairwise_flatMap]
  constructor
  · intro rule _
    rw [locatedIn, List.pairwise_filterMap]
    refine (pairwise_zipIdx _).imp fun earlier found isFound later isLater => ?_
    obtain ⟨_, -, rfl⟩ := Option.map_eq_some_iff.mp isFound
    obtain ⟨_, -, rfl⟩ := Option.map_eq_some_iff.mp isLater
    exact .inr ⟨rfl, earlier⟩
  · refine (pairwise_zipIdx _).imp
      fun earlier found isFound later isLater => .inl ?_
    obtain ⟨slot, finding⟩ := found
    obtain ⟨laterSlot, laterFinding⟩ := later
    rw [(mem_locatedIn_iff.mp isFound).1, (mem_locatedIn_iff.mp isLater).1]
    exact earlier

/-! Dropping repetitions. -/

/-- Dropping repetitions keeps every finding that has not been seen. -/
theorem mem_dropRepeated_iff
    {finding : Discrepancy}
    {seen found : List Discrepancy} :
    finding ∈ dropRepeated seen found ↔
      finding ∈ found ∧ ¬(isUndefinedRule finding = true ∧ finding ∈ seen) := by
  induction found generalizing seen with
  | nil => simp [dropRepeated]
  | cons first rest inductionHypothesis =>
      simp only [dropRepeated]
      split
      · next repeated =>
          simp only [Bool.and_eq_true, List.contains_iff_mem] at repeated
          rw [inductionHypothesis, List.mem_cons]
          constructor
          · rintro ⟨member, fresh⟩
            exact ⟨.inr member, fresh⟩
          · rintro ⟨rfl | member, fresh⟩
            · exact (fresh repeated).elim
            · exact ⟨member, fresh⟩
      · next fresh =>
          simp only [Bool.and_eq_true, List.contains_iff_mem] at fresh
          rw [List.mem_cons, inductionHypothesis, List.mem_cons, List.mem_cons]
          by_cases same : finding = first
          · subst same
            simp [fresh]
          · simp [same]

/-- What is left of a finding about a call target is one copy at most. -/
theorem count_dropRepeated_le_one
    {finding : Discrepancy}
    (isTarget : isUndefinedRule finding = true)
    (seen found : List Discrepancy) :
    (dropRepeated seen found).count finding ≤ 1 := by
  induction found generalizing seen with
  | nil => simp [dropRepeated]
  | cons first rest inductionHypothesis =>
      rw [dropRepeated]
      split_ifs
      · exact inductionHypothesis seen
      · by_cases same : first = finding
        · subst same
          -- behind the first copy the finding counts as seen
          have gone : first ∉ dropRepeated (first :: seen) rest :=
            fun member =>
              (mem_dropRepeated_iff.mp member).2 ⟨isTarget, List.mem_cons_self⟩
          rw [List.count_cons_self, List.count_eq_zero_of_not_mem gone]
        · rw [List.count_cons_of_ne same]
          exact inductionHypothesis (first :: seen)

/-- All other findings are left as they are. -/
theorem count_dropRepeated_of_not_target
    {finding : Discrepancy}
    (notTarget : isUndefinedRule finding = false)
    (seen found : List Discrepancy) :
    (dropRepeated seen found).count finding = found.count finding := by
  induction found generalizing seen with
  | nil => simp [dropRepeated]
  | cons first rest inductionHypothesis =>
      rw [dropRepeated]
      split_ifs with repeated
      · have differ : first ≠ finding := by
          rintro rfl
          simp [notTarget] at repeated
        rw [inductionHypothesis, List.count_cons_of_ne differ]
      · rw [List.count_cons, List.count_cons, inductionHypothesis]

/--
What is left is part of what was found, in the same order. A finding
about a call target that is left has not been seen before, and it is the
first of its kind.
-/
theorem exists_kept
    {pairs : List (Slot × Discrepancy)}
    (ordered : pairs.Pairwise fun first second => first.1.Before second.1)
    (seen : List Discrepancy) :
    ∃ kept : List (Slot × Discrepancy), kept.Sublist pairs ∧
      kept.map Prod.snd = dropRepeated seen (pairs.map Prod.snd) ∧
      ∀ pair ∈ kept, isUndefinedRule pair.2 = true →
        pair.2 ∉ seen ∧
          ∀ other ∈ pairs,
            other.2 = pair.2 → other = pair ∨ pair.1.Before other.1 := by
  -- what has been seen grows along the list, so a kept finding differs from all
  -- in front of it
  induction pairs generalizing seen with
  | nil => exact ⟨[], List.Sublist.slnil, rfl, List.forall_mem_nil _⟩
  | cons first rest inductionHypothesis =>
      obtain ⟨isFirst, restOrdered⟩ := List.pairwise_cons.mp ordered
      rw [List.map_cons, dropRepeated]
      split_ifs with repeated
      · rw [Bool.and_eq_true, List.contains_iff_mem] at repeated
        obtain ⟨kept, isPart, left, fresh⟩ :=
          inductionHypothesis restOrdered seen
        refine ⟨kept, isPart.cons first, left, fun pair member isTarget => ?_⟩
        obtain ⟨unseen, isFirstOfKind⟩ := fresh pair member isTarget
        refine ⟨unseen,
          List.forall_mem_cons.mpr ⟨fun same => ?_, isFirstOfKind⟩⟩
        exact absurd (same ▸ repeated.2) unseen
      · rw [Bool.and_eq_true, List.contains_iff_mem] at repeated
        obtain ⟨kept, isPart, left, fresh⟩ :=
          inductionHypothesis restOrdered (first.2 :: seen)
        refine ⟨first :: kept, isPart.cons_cons first,
          by rw [List.map_cons, left],
          List.forall_mem_cons.mpr
            ⟨fun isTarget => ?_, fun pair member isTarget => ?_⟩⟩
        · refine ⟨fun member => repeated ⟨isTarget, member⟩,
            List.forall_mem_cons.mpr ?_⟩
          exact ⟨fun _ => .inl rfl,
            fun other member _ => .inr (isFirst other member)⟩
        · obtain ⟨unseen, isFirstOfKind⟩ := fresh pair member isTarget
          rw [List.mem_cons, not_or] at unseen
          refine ⟨unseen.2,
            List.forall_mem_cons.mpr ⟨fun same => ?_, isFirstOfKind⟩⟩
          exact absurd same.symm unseen.1

/-! What is reported. -/

/--
A finding arises at a slot and, if it is about the target of a call,
at no earlier one.
-/
structure FirstArisesAt
    (ruleSet : RuleSet)
    (side : Side)
    (slot : Slot)
    (finding : Discrepancy) : Prop where
  arises : ruleSet.ArisesAt side slot finding
  first : isUndefinedRule finding = true → ∀ other,
    ruleSet.ArisesAt side other finding →
    other = slot ∨ slot.Before other

/--
A rule of the name calls the target, and no rule has the target as its name.
-/
def CallsUndefined
    (ruleSet : RuleSet)
    (caller target : String) : Prop :=
  (∃ rule ∈ ruleSet.rules, rule.name = caller ∧ ∃ call ∈ rule.calls,
    call.target = .rule target) ∧
    target ∉ ruleSet.names

/-- The findings stand in the order of the slots at which they arise first. -/
theorem exists_slots_undefinedReferences :
    ∃ slots : List Slot, slots.Pairwise Slot.Before ∧
      List.Forall₂ (ruleSet.FirstArisesAt side) slots
        (ruleSet.undefinedReferences side) := by
  obtain ⟨kept, isPart, left, fresh⟩ :=
    exists_kept (@pairwise_located ruleSet side) []
  rw [map_snd_located] at left
  refine ⟨kept.map Prod.fst,
    List.pairwise_map.mpr (pairwise_located.sublist isPart), ?_⟩
  rw [undefinedReferences, ← left, List.forall₂_map_left_iff,
    List.forall₂_map_right_iff, List.forall₂_same]
  intro pair member
  refine ⟨mem_located_iff.mp (isPart.subset member),
    fun isTarget other arises => ?_⟩
  refine ((fresh pair member isTarget).2 _ (mem_located_iff.mpr arises)
    rfl).imp_left ?_
  exact congrArg Prod.fst

/-- A finding is reported exactly where it arises at some slot. -/
theorem mem_undefinedReferences_iff {finding : Discrepancy} :
    finding ∈ ruleSet.undefinedReferences side ↔
      ∃ slot, ruleSet.ArisesAt side slot finding := by
  rw [undefinedReferences, mem_dropRepeated_iff, ← map_snd_located]
  simp [mem_located_iff]

/-- An undefined call arises exactly where a rule makes it. -/
theorem exists_arisesAt_undefinedRule_iff {caller target : String} :
    (∃ slot, ruleSet.ArisesAt side slot (.undefinedRule side caller target)) ↔
      ruleSet.CallsUndefined caller target := by
  constructor
  · rintro ⟨slot, arises⟩
    cases arises with
    | call isRule isCall targets undefined =>
        exact ⟨⟨_, List.mem_of_getElem? isRule, rfl, _,
            List.mem_of_getElem? isCall, targets⟩,
          undefined⟩
  · rintro ⟨⟨rule, isRule, rfl, call, isCall, targets⟩, undefined⟩
    obtain ⟨definition, isRule⟩ := List.mem_iff_getElem?.mp isRule
    obtain ⟨position, isCall⟩ := List.mem_iff_getElem?.mp isCall
    exact ⟨_, .call isRule isCall targets undefined⟩

/-- An undefined successor arises exactly where a rule names it. -/
theorem exists_arisesAt_undefinedSuccessor_iff {name successor : String} :
    (∃ slot,
      ruleSet.ArisesAt side slot (.undefinedSuccessor side name successor)) ↔
      (∃ rule ∈ ruleSet.rules,
        rule.name = name ∧ rule.successor = some successor) ∧
        successor ∉ ruleSet.names := by
  constructor
  · rintro ⟨slot, arises⟩
    cases arises with
    | successor isRule named undefined =>
        exact ⟨⟨_, List.mem_of_getElem? isRule, rfl, named⟩, undefined⟩
  · rintro ⟨⟨rule, isRule, rfl, named⟩, undefined⟩
    obtain ⟨definition, isRule⟩ := List.mem_iff_getElem?.mp isRule
    exact ⟨_, .successor isRule named undefined⟩

/-- A rule has at most one undefined successor. -/
theorem count_undefinedIn_undefinedSuccessor
    (rule : Rule)
    (name successor : String) :
    (ruleSet.undefinedIn side rule).count
      (.undefinedSuccessor side name successor) =
      if rule.name = name ∧ rule.successor = some successor ∧
          successor ∉ ruleSet.names then
        1
      else
        0 := by
  have notOfCall : .undefinedSuccessor side name successor ∉
      (rule.calls.map
        (ruleSet.undefinedTarget? side rule.name)).reduceOption := by
    intro member
    obtain ⟨call, -, isFinding⟩ :=
      List.mem_map.mp (List.reduceOption_mem_iff.mp member)
    obtain ⟨_, -, -, differ⟩ := undefinedTarget?_eq_some_iff.mp isFinding
    cases differ
  rw [undefinedIn_eq_reduceOption, row, List.reduceOption_append,
    List.count_append, List.count_eq_zero_of_not_mem notOfCall, Nat.zero_add]
  split_ifs with reported
  · obtain ⟨rfl, named, undefined⟩ := reported
    rw [undefinedSuccessor?_eq_some_iff.mpr ⟨successor, named, undefined, rfl⟩]
    exact List.count_singleton_self
  · refine List.count_eq_zero_of_not_mem fun member => reported ?_
    have isFinding :=
      List.mem_singleton.mp (List.reduceOption_mem_iff.mp member)
    obtain ⟨_, named, undefined, same⟩ :=
      undefinedSuccessor?_eq_some_iff.mp isFinding.symm
    cases same
    exact ⟨rfl, named, undefined⟩

/-- An undefined successor is reported once for each rule that names it. -/
theorem count_undefinedReferences_undefinedSuccessor (name successor : String) :
    (ruleSet.undefinedReferences side).count
      (.undefinedSuccessor side name successor) =
      ruleSet.rules.countP fun rule =>
        rule.name = name ∧ rule.successor = some successor ∧
          successor ∉ ruleSet.names := by
  rw [undefinedReferences, count_dropRepeated_of_not_target rfl]
  induction ruleSet.rules with
  | nil => rfl
  | cons rule rest inductionHypothesis =>
      rw [List.flatMap_cons, List.count_append, inductionHypothesis,
        count_undefinedIn_undefinedSuccessor, List.countP_cons, Nat.add_comm]
      simp only [decide_eq_true_eq]

end

/--
An undefined target is reported once for each name of a rule that calls it, an
undefined successor once for each definition that has it, and nothing else is
reported. The findings are ordered by the definitions at which they arise first,
and in a definition those about its calls come first, in the order of the calls,
before the one about its successor.
-/
theorem undefinedReferences_report_each_missing_name
    (ruleSet : RuleSet)
    (side : Side) :
    (∀ caller target,
        (ruleSet.CallsUndefined caller target →
          (ruleSet.undefinedReferences side).count
            (.undefinedRule side caller target) = 1) ∧
        (¬ruleSet.CallsUndefined caller target →
          .undefinedRule side caller target ∉
              ruleSet.undefinedReferences side)) ∧
      (∀ name successor,
        (ruleSet.undefinedReferences side).count
          (.undefinedSuccessor side name successor) =
          ruleSet.rules.countP fun rule =>
            rule.name = name ∧ rule.successor = some successor ∧
              successor ∉ ruleSet.names) ∧
      (∀ finding ∈ ruleSet.undefinedReferences side,
        (∃ caller target, finding = .undefinedRule side caller target) ∨
          ∃ name successor, finding = .undefinedSuccessor side name successor) ∧
      ∃ slots : List Slot, slots.Pairwise Slot.Before ∧
        List.Forall₂ (ruleSet.FirstArisesAt side) slots
          (ruleSet.undefinedReferences side) := by
  refine ⟨fun caller target => ?_, count_undefinedReferences_undefinedSuccessor,
    ?_, exists_slots_undefinedReferences⟩
  · rw [← @exists_arisesAt_undefinedRule_iff ruleSet side,
      ← mem_undefinedReferences_iff]
    refine ⟨fun reported => ?_, id⟩
    exact Nat.le_antisymm (count_dropRepeated_le_one rfl _ _)
      (List.count_pos_iff.mpr reported)
  · intro finding reported
    obtain ⟨slot, arises⟩ := mem_undefinedReferences_iff.mp reported
    cases arises with
    | call => exact .inl ⟨_, _, rfl⟩
    | successor => exact .inr ⟨_, _, rfl⟩

/--
Two definitions of one name call a missing rule three times and have one
missing successor.
-/
def danglingSample : RuleSet where
  maxDepth := defaultMaxDepth
  rules :=
    [⟨"A", none, none, some "Nobody",
      [⟨.rule "Ghost", "", none⟩, ⟨.rule "Ghost", "tx 1", none⟩]⟩,
      ⟨"B", none, none, some "A",
        [⟨.rule "A", "", none⟩, ⟨.rule "Ghost", "", none⟩]⟩,
      ⟨"A", none, none, some "Nobody",
          [⟨.shape "box", "", none⟩, ⟨.rule "Ghost", "", none⟩]⟩]

/--
A call that is repeated is reported once, and a successor that is repeated
twice.
-/
theorem undefinedReferences_report_danglingSample :
    danglingSample.CallsUndefined "A" "Ghost" ∧
      (danglingSample.undefinedReferences .data).count
        (.undefinedRule .data "A" "Ghost") = 1 ∧
      .undefinedRule .data "B" "A" ∉ danglingSample.undefinedReferences .data ∧
      (danglingSample.undefinedReferences .data).count
        (.undefinedSuccessor .data "A" "Nobody") = 2 := by
  obtain ⟨targets, successors, -, -⟩ :=
    undefinedReferences_report_each_missing_name danglingSample .data
  have missing : danglingSample.CallsUndefined "A" "Ghost" := by
    refine ⟨⟨_, List.mem_cons_self, rfl, _, List.mem_cons_self, rfl⟩, by decide⟩
  refine ⟨missing, (targets "A" "Ghost").1 missing, (targets "B" "A").2 ?_, ?_⟩
  · exact fun called => called.2 (by decide)
  · rw [successors "A" "Nobody"]
    decide

end Eisen.RuleSet
