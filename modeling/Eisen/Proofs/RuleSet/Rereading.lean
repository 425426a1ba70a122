import Eisen.Description.Basic
import Eisen.Proofs.Json.Sorted
import Eisen.Proofs.Number.Numeral
import Eisen.Proofs.RuleSet.Parameters

namespace Eisen

/-!
# Rule sets through JSON

Writing a description as JSON and reading it again keeps everything but the
spelling of numerals. Compared with the rule set that was written, the one that
is read differs exactly where a numeral becomes another number.
-/

/-! Numerals of rule sets. -/

/-- The numerals of a rule. -/
def Rule.numerals (rule : Rule) : List Numeral :=
  rule.weight.toList ++ rule.maxDepth.toList ++ rule.calls.filterMap Call.count

/-- The numerals of a rule set. -/
def RuleSet.numerals (ruleSet : RuleSet) : List Numeral :=
  ruleSet.maxDepth :: ruleSet.rules.flatMap Rule.numerals

/-- A call as it is read after it was written. -/
def Call.reread (call : Call) : Call where
  target := call.target
  transforms := call.transforms
  count := call.count.map Numeral.reread

/-- A rule as it is read after it was written. -/
def Rule.reread (rule : Rule) : Rule where
  name := rule.name
  weight := rule.weight.map Numeral.reread
  maxDepth := rule.maxDepth.map Numeral.reread
  successor := rule.successor
  calls := rule.calls.map Call.reread

/-- A rule set as it is read after it was written. -/
def RuleSet.reread (ruleSet : RuleSet) : RuleSet where
  maxDepth := ruleSet.maxDepth.reread
  rules := ruleSet.rules.map Rule.reread

/--
The numerals of a rule are its weight, its depth and the counts of its calls.
-/
theorem Rule.forall_mem_numerals_iff
    (rule : Rule)
    (Holds : Numeral → Prop) :
    (∀ numeral ∈ rule.numerals, Holds numeral) ↔
      (∀ weight ∈ rule.weight, Holds weight) ∧
        (∀ depth ∈ rule.maxDepth, Holds depth) ∧
        ∀ call ∈ rule.calls, ∀ count ∈ call.count, Holds count := by
  simp only [numerals, List.forall_mem_append, Option.mem_toList,
    List.mem_filterMap, Option.mem_def, forall_exists_index, and_imp, and_assoc]
  refine and_congr_right fun _ => and_congr_right fun _ => ?_
  exact ⟨fun holds call inRule count => holds count call inRule,
    fun holds count call inRule => holds call inRule count⟩

/-! Members. -/

/-- An optional member is there where its field has a value. -/
theorem forall_mem_optionalMember_iff
    {α : Type}
    (name : String)
    (encode : α → Json)
    (field : Option α)
    (Holds : String × Json → Prop) :
    (∀ member ∈ optionalMember name encode field, Holds member) ↔
      ∀ value ∈ field, Holds (name, encode value) := by
  cases field <;> simp [optionalMember]

/-- An optional member is found by its own name only. -/
theorem lookup_optionalMember
    {α : Type}
    (name other : String)
    (encode : α → Json)
    (field : Option α) :
    (optionalMember other encode field).lookup name =
      if name = other then field.map encode else none := by
  cases field with
  | none => simp [optionalMember]
  | some value => simp [optionalMember, Json.lookup_cons_eq]

/-- The members of a call. -/
def Call.members (call : Call) : List (String × Json) :=
  [call.target.member, ("transforms", .text call.transforms)] ++
    optionalMember "count" Numeral.toJson call.count

theorem Call.distinct_members (call : Call) :
    (call.members.map Prod.fst).Nodup := by
  obtain ⟨target, transforms, count⟩ := call
  cases target <;> cases count <;> simp [members, Target.member, optionalMember]

/-- The members of a call are its target, its transformations and its count. -/
theorem Call.forall_mem_members_iff
    (call : Call)
    (Holds : String × Json → Prop) :
    (∀ member ∈ call.members, Holds member) ↔
      Holds call.target.member ∧ Holds ("transforms", .text call.transforms) ∧
        ∀ count ∈ call.count, Holds ("count", count.toJson) := by
  simp only [members, List.forall_mem_append, List.forall_mem_cons,
    List.not_mem_nil, false_imp_iff, implies_true, true_and,
    forall_mem_optionalMember_iff, and_assoc]

/-- The members of a rule. -/
def Rule.members (rule : Rule) : List (String × Json) :=
  [("name", .text rule.name)] ++
    optionalMember "weight" Numeral.toJson rule.weight ++
    optionalMember "max_depth" Numeral.toJson rule.maxDepth ++
    optionalMember "successor" .text rule.successor ++
    [("calls", .array (rule.calls.map Call.toJson))]

theorem Rule.distinct_members (rule : Rule) :
    (rule.members.map Prod.fst).Nodup := by
  obtain ⟨name, weight, maxDepth, successor, calls⟩ := rule
  cases weight <;> cases maxDepth <;> cases successor <;>
    simp [members, optionalMember]

/-- The members of a rule are its name, its parameters and its calls. -/
theorem Rule.forall_mem_members_iff
    (rule : Rule)
    (Holds : String × Json → Prop) :
    (∀ member ∈ rule.members, Holds member) ↔
      Holds ("name", .text rule.name) ∧
        (∀ weight ∈ rule.weight, Holds ("weight", weight.toJson)) ∧
        (∀ depth ∈ rule.maxDepth, Holds ("max_depth", depth.toJson)) ∧
        (∀ successor ∈ rule.successor, Holds ("successor", .text successor)) ∧
        Holds ("calls", .array (rule.calls.map Call.toJson)) := by
  simp only [members, List.forall_mem_append, List.forall_mem_singleton,
    forall_mem_optionalMember_iff, and_assoc]

/-- The members of a description. -/
def Description.members (description : Description) : List (String × Json) :=
  optionalMember "title" .text description.title ++
    optionalMember "source" .text description.source ++
      description.ruleSet.members

theorem Description.distinct_members (description : Description) :
    (description.members.map Prod.fst).Nodup := by
  obtain ⟨title, source, ruleSet⟩ := description
  cases title <;> cases source <;>
    simp [members, RuleSet.members, optionalMember]

/--
The members of a description are its title, its source, its depth limit and its
rules.
-/
theorem Description.forall_mem_members_iff
    (description : Description)
    (Holds : String × Json → Prop) :
    (∀ member ∈ description.members, Holds member) ↔
      (∀ title ∈ description.title, Holds ("title", .text title)) ∧
        (∀ source ∈ description.source, Holds ("source", .text source)) ∧
        Holds ("max_depth", description.ruleSet.maxDepth.toJson) ∧
        Holds ("rules",
          .array (description.ruleSet.rules.map Rule.toJson)) := by
  simp only [members, RuleSet.members, List.forall_mem_append,
    List.forall_mem_cons, List.not_mem_nil, false_imp_iff, implies_true,
    and_true, forall_mem_optionalMember_iff, and_assoc]

theorem Numeral.sorted_toJson (numeral : Numeral) :
    numeral.toJson.sorted = numeral.toJson := by
  unfold toJson
  split
  · rfl
  · split <;> rfl

/-! Decoding. -/

section

-- the members that are written decide which member is found
attribute [local simp] List.lookup_append Json.lookup_cons_eq
  lookup_optionalMember

namespace Decoding

variable
    {α β : Type}
    {members : List (String × Json)}
    (distinct : (members.map Prod.fst).Nodup)
    {name : String}

include distinct

/-- A member is read from sorted members as its own sorted value. -/
theorem memberOr_sorted
    {value : Json}
    (found : members.lookup name = some value)
    (default : α)
    (field : Json → Except Fault α) :
    memberOr default field name (Json.sortedMembers [] members) =
      field value.sorted := by
  rw [memberOr, Json.member?_sortedMembers distinct, Json.member?, found]
  rfl

/--
An optional member is read as its value, or as none where it was left out.
-/
theorem memberOr_optional_sorted
    {written : Option α}
    {encode : α → Json}
    (found : members.lookup name = written.map encode)
    {field : Json → Except Fault β}
    {read : α → β}
    (reads : ∀ value ∈ written,
      optional field (encode value).sorted = .ok (some (read value))) :
    memberOr none (optional field) name (Json.sortedMembers [] members) =
      .ok (written.map read) := by
  rw [memberOr, Json.member?_sortedMembers distinct, Json.member?, found]
  cases written with
  | none => rfl
  | some value => exact reads value rfl

end Decoding

open Decoding

/-- A trimmed numeral is read back as its reread form. -/
theorem Numeral.optional_ofJson
    {numeral : Numeral}
    (trimmed : numeral.IsTrimmed) :
    optional ofJson numeral.toJson.sorted = .ok (some numeral.reread) := by
  have read := ofJson_toJson trimmed
  rw [sorted_toJson]
  cases form : numeral.toJson with
  | null => simp [form, ofJson] at read
  | _ =>
      rw [form] at read
      simp only [Decoding.optional, read, Except.map]

/-- The target of a call is read back. -/
theorem Target.ofMembers_sorted (call : Call) :
    ofMembers (Json.sortedMembers [] call.members) = .ok call.target := by
  unfold ofMembers
  simp only [Json.member?_sortedMembers call.distinct_members]
  cases form : call.target <;>
    simp [Call.members, form, member, Json.member?, Json.sorted,
      text, Except.map]

/-- A call with a trimmed count is read back as its reread form. -/
theorem Call.ofJson_sorted
    {call : Call}
    (trimmed : ∀ count ∈ call.count, count.IsTrimmed) :
    ofJson call.toJson.sorted = .ok call.reread := by
  have distinct := call.distinct_members
  have written :
      call.toJson.sorted = .object (Json.sortedMembers [] call.members) := by
    rw [← Json.sorted]
    rfl
  have count : call.members.lookup "count" = call.count.map Numeral.toJson := by
    cases form : call.target <;>
      simp [members, form, Target.member]
  have transforms :
      call.members.lookup "transforms" = some (.text call.transforms) := by
    cases form : call.target <;> simp [members, form, Target.member]
  rw [written, ofJson,
    memberOr_optional_sorted distinct count fun numeral isCount =>
      Numeral.optional_ofJson (trimmed numeral isCount),
    memberOr_sorted distinct transforms, Target.ofMembers_sorted]
  rfl

/-- Reading every item of a written list gives what each item is read as. -/
theorem Decoding.list_sorted
    {α β : Type}
    {encode : α → Json}
    {item : Json → Except Fault β}
    {read : α → β}
    {values : List α}
    (reads : ∀ value ∈ values, item (encode value).sorted = .ok (read value)) :
    list item (Json.array (values.map encode)).sorted =
      .ok (values.map read) := by
  simp only [Json.sorted, Json.sortedItems_eq_map, list, List.map_map]
  induction values with
  | nil => rfl
  | cons value rest inductionHypothesis =>
      obtain ⟨first, others⟩ := List.forall_mem_cons.mp reads
      rw [List.map_cons, List.mapM_cons, Function.comp_apply, first,
        inductionHypothesis others]
      rfl

/-- A rule with trimmed numerals is read back as its reread form. -/
theorem Rule.ofJson_sorted
    (container : Container)
    {rule : Rule}
    (trimmed : ∀ numeral ∈ rule.numerals, numeral.IsTrimmed) :
    ofJson container rule.toJson.sorted = .ok rule.reread := by
  have distinct := rule.distinct_members
  obtain ⟨weights, depths, counts⟩ :=
    (rule.forall_mem_numerals_iff Numeral.IsTrimmed).mp trimmed
  have written :
      rule.toJson.sorted = .object (Json.sortedMembers [] rule.members) := by
    rw [← Json.sorted]
    rfl
  have calls : rule.members.lookup "calls" =
      some (.array (rule.calls.map Call.toJson)) := by
    simp [members]
  have maxDepth :
      rule.members.lookup "max_depth" = rule.maxDepth.map Numeral.toJson := by
    simp [members]
  have name : rule.members.lookup "name" = some (.text rule.name) := by
    simp [members]
  have successor :
      rule.members.lookup "successor" = rule.successor.map .text := by
    simp [members]
  have weight :
      rule.members.lookup "weight" = rule.weight.map Numeral.toJson := by
    simp [members]
  rw [written, ofJson,
    memberOr_sorted distinct calls,
    list_sorted fun call inRule => Call.ofJson_sorted (counts call inRule),
    memberOr_optional_sorted distinct maxDepth fun numeral isDepth =>
      Numeral.optional_ofJson (depths numeral isDepth),
    memberOr_sorted distinct name,
    memberOr_optional_sorted distinct successor fun _ _ => rfl,
    memberOr_optional_sorted distinct weight fun numeral isWeight =>
      Numeral.optional_ofJson (weights numeral isWeight)]
  rw [Rule.reread]
  simp [bind, Except.bind, Json.sorted, text, Except.map, pure, Except.pure]

/-- A rule set with trimmed numerals is read back as its reread form. -/
theorem RuleSet.ofMembers_sorted
    (container : Container)
    {description : Description}
    (trimmed : ∀ numeral ∈ description.ruleSet.numerals, numeral.IsTrimmed) :
    ofMembers container (Json.sortedMembers [] description.members) =
      .ok description.ruleSet.reread := by
  have distinct := description.distinct_members
  have maxDepth : description.members.lookup "max_depth" =
      some description.ruleSet.maxDepth.toJson := by
    simp [Description.members, RuleSet.members]
  have rules : description.members.lookup "rules" =
      some (.array (description.ruleSet.rules.map Rule.toJson)) := by
    simp [Description.members, RuleSet.members]
  obtain ⟨depth, others⟩ := List.forall_mem_cons.mp trimmed
  have readRules : list (Rule.ofJson container)
      (Json.array (description.ruleSet.rules.map Rule.toJson)).sorted =
        .ok (description.ruleSet.rules.map Rule.reread) :=
    list_sorted fun rule inRules =>
      Rule.ofJson_sorted container fun numeral member =>
      others numeral (List.mem_flatMap.mpr ⟨rule, inRules, member⟩)
  rw [ofMembers, memberOr_sorted distinct maxDepth, Numeral.sorted_toJson,
    Numeral.ofJson_toJson depth, Json.member?_sortedMembers distinct,
    Json.member?, rules]
  simp [readRules, bind, Except.bind, pure, Except.pure, RuleSet.reread]

/--
A description is read as it was written, but for the spelling of its numerals.
-/
theorem Description.ofJson_sorted
    {description : Description}
    (trimmed : ∀ numeral ∈ description.ruleSet.numerals, numeral.IsTrimmed) :
    ofJson description.toJson.sorted =
      .ok { description with ruleSet := description.ruleSet.reread } := by
  have distinct := description.distinct_members
  have written : description.toJson.sorted =
      .object (Json.sortedMembers [] description.members) := by
    rw [← Json.sorted]
    rfl
  have title :
      description.members.lookup "title" = description.title.map .text := by
    simp [Description.members, RuleSet.members]
  have source :
      description.members.lookup "source" = description.source.map .text := by
    simp [Description.members, RuleSet.members]
  rw [written, ofJson,
    memberOr_optional_sorted distinct source fun _ _ => rfl,
    memberOr_optional_sorted distinct title fun _ _ => rfl,
    RuleSet.ofMembers_sorted .description trimmed]
  simp [bind, Except.bind, pure, Except.pure]

end

/-! Comparison. -/

/-- A numeral keeps its number when it is written and read. -/
def Numeral.Survives (numeral : Numeral) : Prop :=
  numeral.canonical = numeral.reread.canonical

/-- An optional numeral keeps its canonical form exactly where it survives. -/
theorem Numeral.map_canonical_reread_eq_iff (field : Option Numeral) :
    field.map canonical = (field.map reread).map canonical ↔
      ∀ numeral ∈ field, numeral.Survives := by
  cases field <;> simp [Survives]

/-- A call keeps its signature exactly where its count survives. -/
theorem Call.signature_reread_eq_iff (call : Call) :
    call.signature = call.reread.signature ↔
      ∀ count ∈ call.count, count.Survives := by
  obtain ⟨target, transforms, count⟩ := call
  cases count with
  | none => simp [reread, signature, plainTransforms]
  | some count =>
      simp [reread, signature, plainTransforms, Numeral.Survives]

/-- A rule keeps its parameters exactly where its numerals survive. -/
theorem Rule.parameters_reread_eq_iff (rule : Rule) :
    rule.parameters = rule.reread.parameters ↔
      ∀ numeral ∈ rule.numerals, numeral.Survives := by
  simp only [parameters, reread, RuleParameters.mk.injEq,
    Numeral.map_canonical_reread_eq_iff, List.map_map, List.map_inj_left,
    Function.comp_apply, Call.signature_reread_eq_iff,
    rule.forall_mem_numerals_iff, true_and]

namespace RuleSet

theorem names_reread (ruleSet : RuleSet) :
    ruleSet.reread.names = ruleSet.names := by
  simp [names, reread, Rule.reread]

theorem defines_reread (ruleSet : RuleSet) :
    ruleSet.reread.defines = ruleSet.defines := by
  funext name
  rw [defines, defines, names_reread]

/-- Rereading keeps the variants of a name apart. -/
theorem variants_reread
    (ruleSet : RuleSet)
    (name : String) :
    ruleSet.reread.variants name = (ruleSet.variants name).map Rule.reread := by
  simp only [variants, reread, List.filter_map]
  rfl

/--
A rule set that is written and read differs exactly where a numeral
changes its number.
-/
theorem differences_reread_eq_nil_iff (ruleSet : RuleSet) :
    ruleSet.differences ruleSet.reread = [] ↔
      ∀ numeral ∈ ruleSet.numerals, numeral.Survives := by
  have sameVariants (name : String) :
      (ruleSet.variants name).map Rule.parameters =
          (ruleSet.reread.variants name).map Rule.parameters ↔
        ∀ rule ∈ ruleSet.variants name, ∀ numeral ∈ rule.numerals,
          numeral.Survives := by
    simp only [variants_reread, List.map_map, List.map_inj_left,
      Function.comp_apply, Rule.parameters_reread_eq_iff]
  rw [differences_eq_nil_iff_sameParameters, numerals, List.forall_mem_cons]
  constructor
  · intro same
    refine ⟨same.maxDepth, fun numeral member => ?_⟩
    obtain ⟨rule, inRules, inRule⟩ := List.mem_flatMap.mp member
    have inVariants : rule ∈ ruleSet.variants rule.name :=
      List.mem_filter.mpr ⟨inRules, beq_self_eq_true _⟩
    exact (sameVariants rule.name).mp
      (same.variants rule.name) rule inVariants numeral inRule
  · rintro ⟨depth, survive⟩
    refine ⟨depth, fun name => by
      rw [names_reread], fun name => (sameVariants name).mpr ?_⟩
    intro rule inVariants numeral inRule
    exact survive numeral
      (List.mem_flatMap.mpr ⟨rule, (List.mem_filter.mp inVariants).1, inRule⟩)

/-- Writing and reading a rule set keeps its undefined references. -/
theorem undefinedReferences_reread
    (ruleSet : RuleSet)
    (side : Side) :
    ruleSet.reread.undefinedReferences side =
      ruleSet.undefinedReferences side := by
  have sameTarget (caller : String) (call : Call) :
      ruleSet.reread.undefinedTarget? side caller call.reread =
        ruleSet.undefinedTarget? side caller call := by
    simp only [undefinedTarget?, Call.reread, defines_reread]
  have sameRule (rule : Rule) :
      ruleSet.reread.undefinedIn side rule.reread =
        ruleSet.undefinedIn side rule := by
    simp only [undefinedIn, Rule.reread, List.filterMap_map, Function.comp_def,
      sameTarget, defines_reread]
  have rules : ruleSet.reread.rules = ruleSet.rules.map Rule.reread := rfl
  simp only [undefinedReferences, rules, List.flatMap_map, sameRule]

end RuleSet

end Eisen
