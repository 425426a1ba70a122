import Eisen.Description.Reading
import Eisen.Proofs.Description.Patterns
import Eisen.Proofs.RuleSet.Rereading
import Eisen.Proofs.Schema.Acceptance

namespace Eisen

/-!
# Which descriptions the schema accepts

The schema of descriptions accepts the written form of a description exactly
where its rules have names and its calls have names and shapes as targets.
Numerals never stand in the way, as long as they are not blank.
-/

open Description Script

/-! Keywords on values as they are read. -/

namespace Keyword

variable
    {Holds : Schema → Json → Prop}
    {members : List (String × Json)}

/-- Sorting the members of an object does not change which of them are known. -/
theorem accepts_closedProperties_sorted_iff
    (distinct : (members.map Prod.fst).Nodup)
    (known : List (String × Schema)) :
    (Keyword.closedProperties known).Accepts Holds
      (Json.object members).sorted ↔
      ∀ member ∈ members,
        ∃ schema, known.lookup member.1 = some schema ∧
          Holds schema member.2.sorted := by
  simp only [Accepts, Json.sorted, Json.object.injEq, forall_eq']
  exact Json.forall_mem_sortedMembers_iff distinct fun name value =>
    ∃ schema, known.lookup name = some schema ∧ Holds schema value

/-- Sorting the members of an object does not change which of them are there. -/
theorem accepts_required_sorted_iff
    (distinct : (members.map Prod.fst).Nodup)
    (names : List String) :
    (Keyword.required names).Accepts Holds (Json.object members).sorted ↔
      ∀ name ∈ names, (Json.member? name members).isSome = true := by
  simp only [Accepts, Json.sorted, Json.object.injEq, forall_eq',
    Json.member?_sortedMembers distinct, Option.isSome_map]

theorem accepts_type_object_sorted :
    (Keyword.type [.object]).Accepts Holds (Json.object members).sorted := by
  simp [Accepts, Json.sorted, Schema.Kind.admits]

theorem accepts_items_sorted_iff
    (schema : Schema)
    (items : List Json) :
    (Keyword.items schema).Accepts Holds (Json.array items).sorted ↔
      ∀ item ∈ items, Holds schema item.sorted := by
  simp [Accepts, Json.sorted, Json.sortedItems_eq_map]

theorem accepts_type_array_sorted (items : List Json) :
    (Keyword.type [.array]).Accepts Holds (Json.array items).sorted := by
  simp [Accepts, Json.sorted, Schema.Kind.admits]

theorem accepts_minItems_sorted_iff
    (count : Nat)
    (items : List Json) :
    (Keyword.minItems count).Accepts Holds (Json.array items).sorted ↔
      count ≤ items.length := by
  simp [Accepts, Json.sorted, Json.sortedItems_eq_map]

end Keyword

/-! Parts of descriptions. -/

/-- A numeral that is not blank for the schema. -/
def Numeral.HasInk (numeral : Numeral) : Prop :=
  ∃ character ∈ numeral.text.toList, nonSpace.holds character = true

/-- A target that the schema accepts. -/
def Target.Conforms : Target → Prop
  | .rule name => IsName name
  | .shape name => shapePattern.pattern.search name = .ok true

/-- A rule with a name, whose targets and successor the schema accepts. -/
structure Rule.Conforms (rule : Rule) : Prop where
  name : IsName rule.name
  successor : ∀ successor ∈ rule.successor, IsName successor
  calls : ∀ call ∈ rule.calls, call.target.Conforms

namespace Description

open Schema.Document

/-- A reference to a definition accepts what the definition accepts. -/
theorem accepts_definition_iff
    {name : String}
    {schema : Schema}
    (isDefined :
      descriptionDocument.target ("#/definitions/" ++ name) = .ok schema)
    (budget : Nat)
    (value : Json) :
    descriptionDocument.AcceptsWithin (budget + 1) (definition name) value ↔
      descriptionDocument.AcceptsWithin budget schema value := by
  constructor
  · rintro ⟨target, isTarget, accepted⟩
    cases isDefined.symm.trans isTarget
    exact accepted
  · exact fun accepted => ⟨schema, isDefined, accepted⟩

/-- Every text is accepted where a text is expected. -/
theorem accepts_text (budget : Nat) (text : String) :
    descriptionDocument.AcceptsWithin (budget + 1) textSchema (.text text) := by
  simp [textSchema, Schema.Document.AcceptsWithin, Keyword.Accepts,
    Schema.Kind.admits]

/-- The definition of rule names accepts exactly the texts that are names. -/
theorem accepts_name_iff (budget : Nat) (name : String) :
    descriptionDocument.AcceptsWithin (budget + 2) (definition "rule_name")
      (.text name) ↔
      IsName name := by
  rw [@accepts_definition_iff "rule_name" nameSchema rfl]
  simp [nameSchema, Schema.Document.AcceptsWithin, Keyword.Accepts,
    Schema.Kind.admits, search_namePattern_iff]

/--
A text is accepted as a shape exactly where the pattern of shapes
is found in it.
-/
theorem accepts_shape_iff (budget : Nat) (shape : String) :
    descriptionDocument.AcceptsWithin (budget + 1) shapeSchema (.text shape) ↔
      shapePattern.pattern.search shape = .ok true := by
  simp [shapeSchema, Schema.Document.AcceptsWithin, Keyword.Accepts,
    Schema.Kind.admits]

/-- The definition of numerals accepts every numeral that is not blank. -/
theorem accepts_numeral
    (budget : Nat)
    {numeral : Numeral}
    (ink : numeral.HasInk) :
    descriptionDocument.AcceptsWithin (budget + 3)
      (definition "numeric") numeral.toJson := by
  obtain ⟨character, member, holds⟩ := ink
  have found := search_inkPattern_of_mem member holds
  rw [@accepts_definition_iff "numeric" numeralSchema rfl]
  simp only [numeralSchema, acceptsWithin_keywords, List.forall_mem_singleton,
    Keyword.accepts_oneOf_pair_iff]
  unfold Numeral.toJson
  split
  · simp [Keyword.Accepts, Schema.Kind.admits]
  · split
    · simp [Keyword.Accepts, Schema.Kind.admits]
    · simp [Keyword.Accepts, Schema.Kind.admits, found]

/-- The member of a target is accepted exactly where the target conforms. -/
theorem accepts_target_iff
    (budget : Nat)
    (target : Target) :
    (∃ schema,
      [("count", definition "numeric"), ("rule", definition "rule_name"),
          ("shape", shapeSchema), ("transforms", textSchema)].lookup
            target.member.1 =
        some schema ∧
        descriptionDocument.AcceptsWithin
          (budget + 2) schema target.member.2.sorted) ↔
      target.Conforms := by
  cases target with
  | rule name =>
      rw [Target.Conforms, ← accepts_name_iff budget]
      constructor
      · rintro ⟨_, ⟨⟩, accepted⟩
        exact accepted
      · exact fun accepted => ⟨definition "rule_name", rfl, accepted⟩
  | shape name =>
      rw [Target.Conforms, ← accepts_shape_iff (budget + 1)]
      constructor
      · rintro ⟨_, ⟨⟩, accepted⟩
        exact accepted
      · exact fun accepted => ⟨shapeSchema, rfl, accepted⟩

/-- A call has one member for its target, of one of the two kinds. -/
theorem oneTarget_members (call : Call) :
    (Json.member? "rule" call.members).isSome =
      !(Json.member? "shape" call.members).isSome := by
  cases form : call.target <;>
    simp [Call.members, form, Target.member, Json.member?, Json.lookup_cons_eq,
      lookup_optionalMember, -List.lookup_isSome_iff]

/-- The schema accepts a call exactly where it accepts the target. -/
theorem accepts_call_iff
    (budget : Nat)
    {call : Call}
    (ink : ∀ count ∈ call.count, count.HasInk) :
    descriptionDocument.AcceptsWithin
      (budget + 4) callSchema call.toJson.sorted ↔
      call.target.Conforms := by
  have written : call.toJson = .object call.members := rfl
  have counts : ∀ count ∈ call.count,
      descriptionDocument.AcceptsWithin (budget + 3) (definition "numeric")
        count.toJson.sorted := by
    intro count isCount
    rw [Numeral.sorted_toJson]
    exact accepts_numeral budget (ink count isCount)
  simp only [callSchema, acceptsWithin_keywords, List.forall_mem_cons,
    Keyword.accepts_oneOf_pair_iff, written,
    Keyword.accepts_closedProperties_sorted_iff call.distinct_members,
    Keyword.accepts_required_sorted_iff call.distinct_members,
    Keyword.accepts_type_object_sorted]
  rw [call.forall_mem_members_iff, accepts_target_iff]
  constructor
  · exact fun accepted => accepted.1.1
  · intro conforms
    refine ⟨⟨conforms, ?_, ?_⟩, ?_⟩
    · exact ⟨textSchema, rfl, accepts_text _ _⟩
    · exact fun count isCount =>
        ⟨definition "numeric", rfl, counts count isCount⟩
    · cases shape : (Json.member? "shape" call.members).isSome <;>
        simp [oneTarget_members, shape]

/-- The schema accepts a rule exactly where it conforms. -/
theorem accepts_rule_iff
    (budget : Nat)
    {rule : Rule}
    (ink : ∀ numeral ∈ rule.numerals, numeral.HasInk) :
    descriptionDocument.AcceptsWithin
      (budget + 7) ruleSchema rule.toJson.sorted ↔
      rule.Conforms := by
  have written : rule.toJson = .object rule.members := rfl
  obtain ⟨weights, depths, counts⟩ :=
    (rule.forall_mem_numerals_iff Numeral.HasInk).mp ink
  have accepted {numeral : Numeral} (ink : numeral.HasInk) :
      descriptionDocument.AcceptsWithin (budget + 6) (definition "numeric")
        numeral.toJson.sorted := by
    rw [Numeral.sorted_toJson]
    exact accepts_numeral (budget + 3) ink
  have calls : descriptionDocument.AcceptsWithin (budget + 6)
      (.keywords [.items (definition "call"), .type [.array]])
      (Json.array (rule.calls.map Call.toJson)).sorted ↔
        ∀ call ∈ rule.calls, call.target.Conforms := by
    simp only [acceptsWithin_keywords, List.forall_mem_cons,
      Keyword.accepts_items_sorted_iff, Keyword.accepts_type_array_sorted,
      List.forall_mem_map, @accepts_definition_iff "call" callSchema rfl]
    simpa using forall₂_congr fun call inRule =>
      accepts_call_iff budget (counts call inRule)
  simp only [ruleSchema, acceptsWithin_keywords, List.forall_mem_cons, written,
    Keyword.accepts_closedProperties_sorted_iff rule.distinct_members,
    Keyword.accepts_required_sorted_iff rule.distinct_members,
    Keyword.accepts_type_object_sorted]
  rw [rule.forall_mem_members_iff]
  constructor
  · rintro ⟨⟨⟨_, ⟨⟩, name⟩, -, -, successors, ⟨_, ⟨⟩, bodies⟩⟩, -⟩
    refine ⟨(accepts_name_iff _ _).mp name, ?_, calls.mp bodies⟩
    intro successor isSuccessor
    obtain ⟨_, ⟨⟩, accepted⟩ := successors successor isSuccessor
    exact (accepts_name_iff _ _).mp accepted
  · rintro ⟨name, successors, bodies⟩
    refine ⟨⟨?_, ?_, ?_, ?_, ?_⟩, ?_, trivial, by simp⟩
    · exact ⟨definition "rule_name", rfl, (accepts_name_iff _ _).mpr name⟩
    · intro weight isWeight
      exact ⟨definition "numeric", rfl, accepted (weights weight isWeight)⟩
    · intro depth isDepth
      exact ⟨definition "numeric", rfl, accepted (depths depth isDepth)⟩
    · intro successor isSuccessor
      exact ⟨definition "rule_name", rfl,
        (accepts_name_iff _ _).mpr (successors successor isSuccessor)⟩
    · exact ⟨_, rfl, calls.mpr bodies⟩
    · simp [Rule.members, Json.member?]

/--
The schema accepts a description exactly where it has rules and all
of them conform.
-/
theorem accepts_description_iff
    (budget : Nat)
    {description : Description}
    (ink : ∀ numeral ∈ description.ruleSet.numerals, numeral.HasInk) :
    descriptionDocument.AcceptsWithin (budget + 10) descriptionSchema
        description.toJson.sorted ↔
      description.ruleSet.rules ≠ [] ∧ ∀ rule ∈ description.ruleSet.rules,
        rule.Conforms := by
  have written : description.toJson = .object description.members := rfl
  obtain ⟨depth, others⟩ := List.forall_mem_cons.mp ink
  have rules : descriptionDocument.AcceptsWithin (budget + 9)
      (.keywords [.items (definition "rule"), .minItems 1, .type [.array]])
      (Json.array (description.ruleSet.rules.map Rule.toJson)).sorted ↔
        description.ruleSet.rules ≠ [] ∧ ∀ rule ∈ description.ruleSet.rules,
          rule.Conforms := by
    simp only [acceptsWithin_keywords, List.forall_mem_cons,
      Keyword.accepts_items_sorted_iff, Keyword.accepts_minItems_sorted_iff,
      Keyword.accepts_type_array_sorted, List.forall_mem_map, List.length_map,
      List.length_pos_iff, Nat.succ_le_iff,
      @accepts_definition_iff "rule" ruleSchema rfl]
    rw [forall₂_congr fun rule inRules => accepts_rule_iff budget
      fun numeral member =>
        others numeral (List.mem_flatMap.mpr ⟨rule, inRules, member⟩)]
    simp [and_comm]
  simp only [descriptionSchema, acceptsWithin_keywords, List.forall_mem_cons,
    written,
    Keyword.accepts_closedProperties_sorted_iff description.distinct_members,
    Keyword.accepts_required_sorted_iff description.distinct_members,
    Keyword.accepts_type_object_sorted]
  rw [description.forall_mem_members_iff]
  constructor
  · rintro ⟨⟨-, -, -, ⟨_, ⟨⟩, accepted⟩⟩, -⟩
    exact rules.mp accepted
  · intro conform
    refine ⟨⟨?_, ?_, ?_, ?_⟩, ?_, trivial, by simp⟩
    · intro title _
      exact ⟨textSchema, rfl, accepts_text _ _⟩
    · intro source _
      exact ⟨textSchema, rfl, accepts_text _ _⟩
    · refine ⟨definition "numeric", rfl, ?_⟩
      rw [Numeral.sorted_toJson]
      exact accepts_numeral _ depth
    · exact ⟨_, rfl, rules.mpr conform⟩
    · refine ⟨?_, by simp⟩
      rw [Json.member?, List.lookup_isSome_iff]
      exact ⟨_, List.mem_append_right
        _ (List.mem_cons_of_mem _ List.mem_cons_self), rfl⟩

/--
The budget of a check is enough for all nested schemas of the embedded one.
-/
theorem exists_messages_embedded_eq_nil_iff (value : Json) :
    ∃ budget, LabelledSchema.embedded.messages value = [] ↔
      descriptionDocument.AcceptsWithin
        (budget + 10) descriptionSchema value := by
  have enough : 10 ≤ descriptionDocument.budget value :=
    calc
      10 ≤ descriptionDocument.root.size +
        targetSize descriptionDocument.targets + 1 := by
        decide
      _ ≤ _ := Nat.le_mul_of_pos_right _ (Nat.succ_pos _)
  obtain ⟨budget, isBudget⟩ := Nat.exists_eq_add_of_le' enough
  refine ⟨budget, ?_⟩
  rw [LabelledSchema.messages, List.map_eq_nil_iff, violations,
    violationsWithin_eq_nil_iff, ← isBudget]
  rfl

/--
The embedded schema has nothing to say exactly about descriptions
that it accepts.
-/
theorem messages_embedded_eq_nil_iff
    {description : Description}
    (ink : ∀ numeral ∈ description.ruleSet.numerals, numeral.HasInk) :
    LabelledSchema.embedded.messages description.toJson.sorted = [] ↔
      description.ruleSet.rules ≠ [] ∧ ∀ rule ∈ description.ruleSet.rules,
        rule.Conforms := by
  obtain ⟨budget, accepts⟩ :=
    exists_messages_embedded_eq_nil_iff description.toJson.sorted
  rw [accepts]
  exact accepts_description_iff budget ink

end Description

end Eisen
