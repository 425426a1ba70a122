import Eisen.Proofs.RuleSet.References
import Eisen.Proofs.RuleSet.Unrolling

namespace Eisen

/-!
# Names in unrolled rule sets

A rule set has the rules of its script, a rule for the entry calls and helper
rules. This module says what a name stands for in it: the definitions that the
script has of the name, unless the name is one of those that unrolling makes up.
-/

namespace Script

/-- All call sites: the entry calls, then the bodies of the rules. -/
def sites (script : Script) : List CallSite :=
  script.entry ++ script.rules.flatMap RuleDefinition.body

/-- Some definition has the name. -/
def Declares
    (script : Script)
    (name : String) : Prop :=
  ∃ definition ∈ script.rules, definition.name = name

/-- Some call site has the rule of the name as its target. -/
def Calls
    (script : Script)
    (name : String) : Prop :=
  ∃ site ∈ script.sites, site.target = .rule name

/-- Some definition has the name as its successor. -/
def NamesSuccessor
    (script : Script)
    (name : String) : Prop :=
  ∃ definition ∈ script.rules, definition.successor = some name

instance (script : Script) (name : String) : Decidable (script.Declares name) :=
  inferInstanceAs
    (Decidable (∃ definition ∈ script.rules, definition.name = name))

instance (script : Script) (name : String) : Decidable (script.Calls name) :=
  inferInstanceAs (Decidable (∃ site ∈ script.sites, site.target = .rule name))

end Script

namespace RuleSet

/-- The names of the helper rules of some call sites, numbered from `number`. -/
def helperNames
    (number : Nat) :
    List CallSite → List String
  | [] => []
  | site :: rest =>
      (List.range (helperCount site)).map
          (fun index => helperName site.target.name (number + index)) ++
        helperNames (number + helperCount site) rest

/-- The names that unrolling makes up: the entry rule and all helper rules. -/
def madeUpNames (script : Script) : List String :=
  "entry" :: helperNames 0 script.sites

/--
The rules of a name in the rule set are the script's definitions
of it, in order.
-/
def Resolves
    (script : Script)
    (name : String) : Prop :=
  List.Forall₂
    (fun definition rule => ∃ number helpers,
      UnrollsDefinition number definition rule helpers)
    (script.rules.filter fun definition => definition.name == name)
    ((ofScript script).variants name)

/-! Names of helper rules. -/

/-- The helper rules of a chain have consecutive numbers. -/
theorem names_chainHelpers
    (target : Target)
    (number : Nat)
    (loops : List Loop) :
    (chainHelpers target number loops).map Rule.name =
      (List.range loops.length).map fun index =>
        helperName target.name (number + index) := by
  induction loops generalizing number with
  | nil => rfl
  | cons loop rest inductionHypothesis =>
      simp only [chainHelpers, List.map_cons, List.length_cons,
        List.range_succ_eq_map, List.map_map, inductionHypothesis]
      refine congrArg (_ :: ·) (List.map_congr_left ?_)
      intro index _
      simp only [Function.comp_apply, Nat.succ_eq_add_one]
      rw [Nat.add_assoc, Nat.add_comm 1 index]

/-- The helper rules of a body have consecutive numbers. -/
theorem names_unrollBody_helpers
    (number : Nat)
    (sites : List CallSite) :
    (unrollBody number sites).2.map Rule.name = helperNames number sites := by
  induction sites generalizing number with
  | nil => rfl
  | cons site rest inductionHypothesis =>
      simp only [unrollBody, helperNames, List.map_append, inductionHypothesis,
        callHelpers, names_chainHelpers, List.length_drop, helperCount]

/-- Helper rules are numbered on from one list of call sites to the next. -/
theorem helperNames_append
    (number : Nat)
    (front behind : List CallSite) :
    helperNames number (front ++ behind) =
      helperNames number front ++
        helperNames (number + bodyHelperCount front) behind := by
  induction front generalizing number with
  | nil => simp [helperNames, bodyHelperCount]
  | cons site rest inductionHypothesis =>
      simp [helperNames, bodyHelperCount, inductionHypothesis, Nat.add_assoc]

/-! What a name stands for. -/

/-- The rules of a name are the definitions of it and the helper rules of it. -/
theorem count_names_unrollRules
    (number : Nat)
    (definitions : List RuleDefinition)
    (name : String) :
    ((unrollRules number definitions).map Rule.name).count name =
      (definitions.map RuleDefinition.name).count name +
        (helperNames number (definitions.flatMap RuleDefinition.body)).count
          name := by
  induction definitions generalizing number with
  | nil => simp [unrollRules, helperNames]
  | cons definition rest inductionHypothesis =>
      simp only [unrollRules, List.map_cons, List.map_append, List.count_cons,
        List.count_append, inductionHypothesis, names_unrollBody_helpers,
        List.flatMap_cons,
        helperNames_append]
      omega

/-- Where no helper rule has a name, its rules are the definitions of it. -/
theorem filter_unrollRules
    {number : Nat}
    {definitions : List RuleDefinition}
    {name : String}
    (noHelper :
      name ∉ helperNames number (definitions.flatMap RuleDefinition.body)) :
    List.Forall₂
      (fun definition rule => ∃ number helpers,
        UnrollsDefinition number definition rule helpers)
      (definitions.filter fun definition => definition.name == name)
      ((unrollRules number definitions).filter fun rule =>
        rule.name == name) := by
  induction definitions generalizing number with
  | nil => exact .nil
  | cons definition rest inductionHypothesis =>
      rw [List.flatMap_cons, helperNames_append, List.mem_append,
        not_or] at noHelper
      have noBodyHelper :
          (unrollBody number definition.body).2.filter
            (fun rule => rule.name == name) = [] := by
        rw [List.filter_eq_nil_iff]
        intro helper member sameName
        apply noHelper.1
        rw [← names_unrollBody_helpers]
        exact List.mem_map.mpr ⟨helper, member, by simpa using sameName⟩
      have later := inductionHypothesis noHelper.2
      have first :=
        unrollsDefinition_unrolledRule number definition
      simp only [unrollRules, List.filter_cons, List.filter_append,
        noBodyHelper, List.nil_append]
      by_cases sameName : definition.name == name
      · simp only [sameName, ↓reduceIte]
        exact .cons ⟨number, _, first⟩ later
      · simp only [sameName, Bool.false_eq_true, ↓reduceIte]
        exact later

/--
A name has as many rules as definitions, and one more for each
time it is made up.
-/
theorem length_variants
    (script : Script)
    (name : String) :
    ((ofScript script).variants name).length =
      (script.rules.filter fun definition => definition.name == name).length +
        (madeUpNames script).count name := by
  have rules :=
    count_names_unrollRules 0 (entryDefinition script :: script.rules) name
  have counted (names : List String) :
      names.count name = (names.filter fun other => other == name).length := by
    rw [List.count_eq_countP, List.countP_eq_length_filter]
  have entryName : (entryDefinition script).name = "entry" := rfl
  have entryBody : (entryDefinition script).body = script.entry := rfl
  simp only [List.map_cons, List.count_cons, List.flatMap_cons, entryName,
    entryBody] at rules
  simp only [counted, List.filter_map, List.length_map] at rules
  simp only [variants, ofScript, madeUpNames, List.count_cons, Script.sites]
  simp only [Function.comp_def] at rules
  rw [rules, counted]
  omega

/--
A name stands for the script's definitions of it exactly if it is not made up.
-/
theorem resolves_iff
    (script : Script)
    (name : String) :
    Resolves script name ↔ name ∉ madeUpNames script := by
  constructor
  · intro resolves member
    have sameLength := resolves.length_eq
    have occurs : 0 < (madeUpNames script).count name :=
      List.count_pos_iff.mpr member
    rw [length_variants] at sameLength
    omega
  · intro plain
    rw [madeUpNames, List.mem_cons, not_or] at plain
    have noHelper :
        name ∉ helperNames 0
          ((entryDefinition script :: script.rules).flatMap
            RuleDefinition.body) := plain.2
    have rules := filter_unrollRules noHelper
    have notEntry : ((entryDefinition script).name == name) = false := by
      simpa [entryDefinition, entryName] using fun same => plain.1 same.symm
    rw [List.filter_cons, notEntry] at rules
    exact rules

/--
The rule set defines the names that the script declares and those made up.
-/
theorem defines_ofScript_iff
    (script : Script)
    (name : String) :
    (ofScript script).defines name = true ↔
      script.Declares name ∨ name ∈ madeUpNames script := by
  have rules :=
    count_names_unrollRules 0 (entryDefinition script :: script.rules) name
  rw [defines, List.contains_iff_mem, names, ← List.count_pos_iff, ofScript,
    rules, Nat.add_pos_iff_pos_or_pos, List.count_pos_iff, List.count_pos_iff]
  simp only [List.map_cons, List.mem_cons, List.mem_map, madeUpNames,
    Script.Declares, Script.sites, entryDefinition, entryName,
    List.flatMap_cons]
  rw [or_comm (a := name = "entry"), or_assoc]

/-! What calls and successors refer to. -/

/-- Some call of some rule has the rule of the name as its target. -/
def RefersTo
    (rules : List Rule)
    (name : String) : Prop :=
  ∃ rule ∈ rules, ∃ call ∈ rule.calls, call.target = .rule name

/-- References of a list of rules are those of its parts. -/
theorem refersTo_append
    (front behind : List Rule)
    (name : String) :
    RefersTo (front ++ behind) name ↔
      RefersTo front name ∨ RefersTo behind name := by
  simp only [RefersTo, List.mem_append, or_and_right, exists_or]

/-- A chain leads to its helper rules and to its target, and nowhere else. -/
theorem chain_refersTo_iff
    (target : Target)
    (number : Nat)
    (loops : List Loop)
    (name : String) :
    chainTarget target number loops = .rule name ∨
        RefersTo (chainHelpers target number loops) name ↔
      target = .rule name ∨
        name ∈ (chainHelpers target number loops).map Rule.name := by
  induction loops generalizing number with
  | nil => simp [chainTarget, chainHelpers, RefersTo]
  | cons loop rest inductionHypothesis =>
      have later := inductionHypothesis (number + 1)
      have first :
          RefersTo (chainHelpers target number (loop :: rest)) name ↔
            chainTarget target (number + 1) rest = .rule name ∨
              RefersTo (chainHelpers target (number + 1) rest) name := by
        simp [chainHelpers, RefersTo, looped]
      rw [first, later, chainTarget, chainHelpers, List.map_cons, List.mem_cons,
        Target.rule.injEq, eq_comm (a := name)]
      tauto

/--
A call site leads to its helper rules and to its target, and nowhere else.
-/
theorem site_refersTo_iff
    (number : Nat)
    (site : CallSite)
    (name : String) :
    (unrollCall number site).target = .rule name ∨
        RefersTo (callHelpers number site) name ↔
      site.target = .rule name ∨
        name ∈ (callHelpers number site).map Rule.name := by
  rcases site with ⟨loops, target, line⟩
  cases loops with
  | nil => exact chain_refersTo_iff target number [] name
  | cons first rest => exact chain_refersTo_iff target number rest name

/-- A body leads to its helper rules and to the targets of its call sites. -/
theorem body_refersTo_iff
    (number : Nat)
    (sites : List CallSite)
    (name : String) :
    (∃ call ∈ (unrollBody number sites).1, call.target = .rule name) ∨
        RefersTo (unrollBody number sites).2 name ↔
      (∃ site ∈ sites, site.target = .rule name) ∨
        name ∈ helperNames number sites := by
  induction sites generalizing number with
  | nil => simp [unrollBody, helperNames, RefersTo]
  | cons site rest inductionHypothesis =>
      have later := inductionHypothesis (number + helperCount site)
      have first := site_refersTo_iff number site name
      have names : helperNames number (site :: rest) =
          (callHelpers number site).map Rule.name ++
            helperNames (number + helperCount site) rest := by
        simp only [helperNames, callHelpers, names_chainHelpers,
          List.length_drop, helperCount]
      simp only [unrollBody, List.exists_mem_cons_iff, refersTo_append, names,
        List.mem_append]
      rw [or_or_or_comm, first, later, or_or_or_comm]

/--
The rules of definitions lead to helper rules and to the targets of call sites.
-/
theorem unrollRules_refersTo_iff
    (number : Nat)
    (definitions : List RuleDefinition)
    (name : String) :
    RefersTo (unrollRules number definitions) name ↔
      (∃ site ∈ definitions.flatMap RuleDefinition.body,
        site.target = .rule name) ∨
        name ∈ helperNames number
          (definitions.flatMap RuleDefinition.body) := by
  induction definitions generalizing number with
  | nil => simp [unrollRules, helperNames, RefersTo]
  | cons definition rest inductionHypothesis =>
      have later :=
        inductionHypothesis (number + bodyHelperCount definition.body)
      have first := body_refersTo_iff number definition.body name
      have split :
          RefersTo (unrollRules number (definition :: rest)) name ↔
            ((∃ call ∈ (unrollBody number definition.body).1,
                call.target = .rule name) ∨
              RefersTo (unrollBody number definition.body).2 name) ∨
            RefersTo
              (unrollRules (number + bodyHelperCount definition.body) rest)
              name := by
        simp only [unrollRules, RefersTo, List.exists_mem_cons_iff,
          List.mem_append, or_and_right, exists_or]
        exact or_assoc.symm
      rw [split, first, later, List.flatMap_cons, helperNames_append,
        List.mem_append]
      simp only [List.mem_append, or_and_right, exists_or]
      exact or_or_or_comm

/--
Helper rules have no successor, so all successors are those of definitions.
-/
theorem unrollRules_successor_iff
    (number : Nat)
    (definitions : List RuleDefinition)
    (name : String) :
    (∃ rule ∈ unrollRules number definitions, rule.successor = some name) ↔
      ∃ definition ∈ definitions, definition.successor = some name := by
  have noHelper (target : Target) (number : Nat) (loops : List Loop) :
      ¬∃ rule ∈ chainHelpers target number loops,
        rule.successor = some name := by
    induction loops generalizing number with
    | nil => simp [chainHelpers]
    | cons loop rest inductionHypothesis =>
        simpa [chainHelpers] using inductionHypothesis (number + 1)
  have noBody (number : Nat) (sites : List CallSite) :
      ¬∃ rule ∈ (unrollBody number sites).2, rule.successor = some name := by
    induction sites generalizing number with
    | nil => simp [unrollBody]
    | cons site rest inductionHypothesis =>
        simp only [unrollBody, List.mem_append, or_and_right, exists_or, not_or]
        exact ⟨noHelper site.target number _, inductionHypothesis _⟩
  induction definitions generalizing number with
  | nil => simp [unrollRules]
  | cons definition rest inductionHypothesis =>
      have later :=
        inductionHypothesis (number + bodyHelperCount definition.body)
      have first := noBody number definition.body
      simp only [unrollRules, List.exists_mem_cons_iff, List.mem_append,
        or_and_right, exists_or, later, first, false_or]

/-! Findings about references. -/

/-- A target is reported exactly if a rule calls it and none has its name. -/
theorem undefinedRule_reported_iff
    (ruleSet : RuleSet)
    (side : Side)
    (name : String) :
    (∃ caller, .undefinedRule side caller name ∈
      ruleSet.undefinedReferences side) ↔
      RefersTo ruleSet.rules name ∧ ruleSet.defines name = false := by
  simp only [mem_undefinedReferences_iff, exists_arisesAt_undefinedRule_iff,
    CallsUndefined, defines_eq_false_iff]
  constructor
  · rintro ⟨caller, ⟨rule, member, -, called⟩, undefined⟩
    exact ⟨⟨rule, member, called⟩, undefined⟩
  · rintro ⟨⟨rule, member, called⟩, undefined⟩
    exact ⟨rule.name, ⟨rule, member, rfl, called⟩, undefined⟩

/-- A successor is reported exactly if a rule has it and none has its name. -/
theorem undefinedSuccessor_reported_iff
    (ruleSet : RuleSet)
    (side : Side)
    (name : String) :
    (∃ rule, .undefinedSuccessor side rule name ∈
      ruleSet.undefinedReferences side) ↔
      (∃ rule ∈ ruleSet.rules, rule.successor = some name) ∧
        ruleSet.defines name = false := by
  simp only [mem_undefinedReferences_iff,
    exists_arisesAt_undefinedSuccessor_iff, defines_eq_false_iff]
  constructor
  · rintro ⟨_, ⟨rule, member, -, named⟩, undefined⟩
    exact ⟨⟨rule, member, named⟩, undefined⟩
  · rintro ⟨⟨rule, member, named⟩, undefined⟩
    exact ⟨rule.name, ⟨rule, member, rfl, named⟩, undefined⟩

/--
Made-up names end in the number of a helper rule, the name of the
entry rule apart.
-/
theorem helperName_of_mem_helperNames
    {number : Nat}
    {sites : List CallSite}
    {name : String}
    (member : name ∈ helperNames number sites) :
    ∃ site ∈ sites, 2 ≤ site.loops.length ∧
      ∃ count, name = helperName site.target.name count := by
  induction sites generalizing number with
  | nil => simp [helperNames] at member
  | cons site rest inductionHypothesis =>
      rw [helperNames, List.mem_append] at member
      rcases member with fromSite | fromRest
      · obtain ⟨index, inside, rfl⟩ := List.mem_map.mp fromSite
        have several : index < site.loops.length - 1 := List.mem_range.mp inside
        exact ⟨site, List.mem_cons_self, by omega, number + index, rfl⟩
      · obtain ⟨other, otherMember, found⟩ := inductionHypothesis fromRest
        exact ⟨other, List.mem_cons_of_mem site otherMember, found⟩

/--
What names stand for in the rule set of a script. A name resolves to the
script's own definitions of it exactly if unrolling does not make it up, and it
is reported as undefined exactly if the script refers to it, does not declare it
and unrolling does not make it up. Only the name of the entry rule is made up
without a call behind two loops or more.
-/
theorem ofScript_names_resolve_unless_made_up
    (script : Script)
    (side : Side)
    (name : String) :
    (Resolves script name ↔ name ∉ madeUpNames script) ∧
      ((∃ caller,
          .undefinedRule side caller name ∈
            (ofScript script).undefinedReferences side) ↔
        script.Calls name ∧ ¬script.Declares name ∧ name ∉ madeUpNames script) ∧
      ((∃ rule,
          .undefinedSuccessor side rule name ∈
            (ofScript script).undefinedReferences side) ↔
        script.NamesSuccessor name ∧ ¬script.Declares name ∧
          name ∉ madeUpNames script) ∧
      (name ∈ madeUpNames script →
        name = "entry" ∨
          ∃ site ∈ script.sites, 2 ≤ site.loops.length ∧
            ∃ number, name = helperName site.target.name number) := by
  have undefined :
      (ofScript script).defines name = false ↔
        ¬script.Declares name ∧ name ∉ madeUpNames script := by
    rw [← not_or, ← defines_ofScript_iff, Bool.not_eq_true]
  refine ⟨resolves_iff script name, ?_, ?_, ?_⟩
  · rw [undefinedRule_reported_iff, undefined]
    have referred :=
      unrollRules_refersTo_iff 0 (entryDefinition script :: script.rules) name
    constructor
    · rintro ⟨refers, undeclared, plain⟩
      rcases referred.mp refers with called | helper
      · exact ⟨called, undeclared, plain⟩
      · exact (plain (List.mem_cons_of_mem _ helper)).elim
    · rintro ⟨called, undeclared, plain⟩
      exact ⟨referred.mpr (.inl called), undeclared, plain⟩
  · rw [undefinedSuccessor_reported_iff, undefined]
    have named :=
      unrollRules_successor_iff 0 (entryDefinition script :: script.rules) name
    have entryHasNone : (entryDefinition script).successor = none := rfl
    rw [List.exists_mem_cons_iff, entryHasNone] at named
    simp only [ofScript, named, Script.NamesSuccessor, reduceCtorEq, false_or]
  · intro member
    rcases List.mem_cons.mp member with isEntry | fromSite
    · exact .inl isEntry
    · exact .inr (helperName_of_mem_helperNames fromSite)

/--
A helper rule can have a name that the script uses: here `R_00` is called and
not declared, unrolling makes it up, and the call is not reported.
-/
theorem helper_rule_captures_called_name :
    ∃ script,
      Script.ofSource
        "\x7b x 1 \x7d \x7b y 1 \x7d R\nR_00\nrule R \x7b box \x7d" =
          .ok script ∧
        script.Calls "R_00" ∧ ¬script.Declares "R_00" ∧
          "R_00" ∈ madeUpNames script ∧
        (ofScript script).undefinedReferences .script = [] := by
  refine ⟨
    { maxDepth := none
      entry :=
        [⟨[⟨none, [⟨.moveX, ["1"]⟩]⟩, ⟨none, [⟨.moveY, ["1"]⟩]⟩], .rule "R", 1⟩,
          ⟨[], .rule "R_00", 2⟩]
      rules := [⟨"R", none, none, none, [⟨[], .shape "box", 3⟩], 3⟩] }, ?_,
        ?_, ?_, ?_, ?_⟩
  all_goals decide +kernel

end RuleSet

end Eisen
