import Eisen.Proofs.Description.Acceptance
import Eisen.Proofs.RuleSet.Names

namespace Eisen

/-!
# Which unrolled rule sets conform

The rule set of a script holds the names, shapes and numerals of the script, and
names that unrolling makes up for helper rules. A made-up name starts with the
name of the target at the end of its chain of loops, so it is the name of a rule
unless the target is a shape with a suffix.
-/

open Script RuleSet

/-- Whether a target is a shape with a suffix, which stands behind colons. -/
def Target.isSuffixed : Target → Bool
  | .rule _ => false
  | .shape name => name.toList.contains ':'

/-- Some chain of two or more loops leads to a shape with a suffix. -/
def Script.LoopsSuffixedShape (script : Script) : Prop :=
  ∃ site ∈ script.sites, 2 ≤ site.loops.length ∧ site.target.isSuffixed = true

instance (script : Script) : Decidable script.LoopsSuffixedShape :=
  inferInstanceAs (Decidable (∃ site ∈ script.sites, _ ∧ _))

/-! Rules of unrolled scripts. -/

namespace RuleSet

/--
A helper rule carries one loop of its chain and is named after the target.
-/
theorem mem_chainHelpers
    {target : Target}
    {number : Nat}
    {loops : List Loop}
    {helper : Rule}
    (member : helper ∈ chainHelpers target number loops) :
    ∃ start, ∃ loop ∈ loops, ∃ rest,
      helper =
        { name := helperName target.name start
          weight := none
          maxDepth := none
          successor := none
          calls := [looped loop (chainTarget target (start + 1) rest)] } := by
  induction loops generalizing number with
  | nil => cases member
  | cons loop rest inductionHypothesis =>
      rcases List.mem_cons.mp member with isFirst | inRest
      · exact ⟨number, loop, List.mem_cons_self, rest, isFirst⟩
      · obtain ⟨start, loop, inLoops, form⟩ := inductionHypothesis inRest
        exact ⟨start, loop, List.mem_cons_of_mem _ inLoops, form⟩

/-- The calls of a body are those of its call sites. -/
theorem mem_unrollBody_calls
    {number : Nat}
    {sites : List CallSite}
    {call : Call}
    (member : call ∈ (unrollBody number sites).1) :
    ∃ start, ∃ site ∈ sites, call = unrollCall start site := by
  obtain ⟨index, found⟩ := List.mem_iff_getElem?.mp member
  rw [unrollBody_calls_getElem?, Option.map_eq_some_iff] at found
  obtain ⟨site, atIndex, rfl⟩ := found
  exact ⟨_, site, List.mem_of_getElem? atIndex, rfl⟩

/-- The helper rules of a body are those of its call sites. -/
theorem mem_unrollBody_helpers
    {number : Nat}
    {sites : List CallSite}
    {helper : Rule}
    (member : helper ∈ (unrollBody number sites).2) :
    ∃ start, ∃ site ∈ sites, helper ∈ callHelpers start site := by
  rw [unrollBody_helpers, List.mem_flatten] at member
  obtain ⟨chain, inChains, inChain⟩ := member
  obtain ⟨index, found⟩ := List.mem_iff_getElem?.mp inChains
  rw [chainsFrom_getElem?, Option.map_eq_some_iff] at found
  obtain ⟨site, atIndex, rfl⟩ := found
  exact ⟨_, site, List.mem_of_getElem? atIndex, inChain⟩

/--
A rule of an unrolled script is the rule of a definition or a helper
rule of a call site.
-/
theorem mem_unrollRules
    {number : Nat}
    {definitions : List RuleDefinition}
    {rule : Rule}
    (member : rule ∈ unrollRules number definitions) :
    (∃ start, ∃ definition ∈ definitions,
      rule = unrolledRule start definition) ∨
      ∃ start, ∃ site ∈ definitions.flatMap RuleDefinition.body,
        rule ∈ callHelpers start site := by
  rw [unrollRules_eq_blocks, List.mem_flatMap] at member
  obtain ⟨block, inBlocks, inBlock⟩ := member
  obtain ⟨index, found⟩ := List.mem_iff_getElem?.mp inBlocks
  rw [blocksFrom_getElem?, Option.map_eq_some_iff] at found
  obtain ⟨definition, atIndex, rfl⟩ := found
  have inDefinitions := List.mem_of_getElem? atIndex
  rcases List.mem_cons.mp inBlock with isRule | isHelper
  · exact .inl ⟨_, definition, inDefinitions, isRule⟩
  · obtain ⟨start, site, inBody, isHelper⟩ := mem_unrollBody_helpers isHelper
    exact .inr ⟨start, site,
      List.mem_flatMap.mpr ⟨definition, inDefinitions, inBody⟩, isHelper⟩

/--
A call site with two loops or more has a helper rule named after its target.
-/
theorem exists_mem_helperNames
    {number : Nat}
    {sites : List CallSite}
    {site : CallSite}
    (member : site ∈ sites)
    (chained : 2 ≤ site.loops.length) :
    ∃ start, helperName site.target.name start ∈ helperNames number sites := by
  induction sites generalizing number with
  | nil => cases member
  | cons first rest inductionHypothesis =>
      rcases List.mem_cons.mp member with rfl | inRest
      · refine ⟨number, List.mem_append_left _ (List.mem_map.mpr ⟨0, ?_, rfl⟩)⟩
        rw [List.mem_range, helperCount]
        omega
      · obtain ⟨start, found⟩ := inductionHypothesis inRest
        exact ⟨start, List.mem_append_right _ found⟩

/-! Made-up names. -/

/-- The number of a helper rule adds name characters only. -/
theorem isNameCharacter_of_mem_twoDigits
    {number : Nat}
    {character : Char}
    (member : character ∈ (twoDigits number).toList) :
    Text.isNameCharacter character = true := by
  have isDigit : character.isDigit = true := by
    have digits : character = '0' ∨ character ∈ (toString number).toList := by
      unfold twoDigits at member
      split at member
      · simpa using member
      · exact .inr member
    rcases digits with rfl | inDigits
    · rfl
    · rw [Nat.toString_eq_repr, Nat.toList_repr] at inDigits
      exact Nat.isDigit_of_mem_toDigits (by decide) (by decide) inDigits
  simp [Text.isNameCharacter, Char.isAlphanum, isDigit]

/-- A made-up name is a name exactly if it starts with one. -/
theorem isName_helperName_iff
    (target : String)
    (number : Nat) :
    IsName (helperName target number) ↔ IsName target := by
  have form : (helperName target number).toList =
      target.toList ++ '_' :: (twoDigits number).toList := by
    simp [helperName]
  have behind : ∀ character ∈ '_' :: (twoDigits number).toList,
      Text.isNameCharacter character = true := by
    rw [List.forall_mem_cons]
    exact ⟨rfl, fun _ => isNameCharacter_of_mem_twoDigits⟩
  rw [IsName, form, IsName]
  constructor
  · rintro ⟨first, rest, isCons, letter, word⟩
    cases shape : target.toList with
    | nil =>
        rw [shape] at isCons
        cases isCons
        exact absurd letter (by decide)
    | cons head tail =>
        rw [shape] at isCons
        cases isCons
        exact ⟨first, tail, rfl, letter, fun character inTail =>
          word character (List.mem_append_left _ inTail)⟩
  · rintro ⟨first, rest, isCons, letter, word⟩
    rw [isCons]
    exact ⟨first, rest ++ _, rfl, letter,
      List.forall_mem_append.mpr ⟨word, behind⟩⟩

end RuleSet

theorem Script.IsName.colon_not_mem
    {name : String}
    (isName : IsName name) :
    ':' ∉ name.toList := by
  obtain ⟨first, rest, form, letter, word⟩ := isName
  intro colon
  rw [form] at colon
  rcases List.mem_cons.mp colon with rfl | inRest
  · exact absurd letter (by decide)
  · exact absurd (word ':' inRest) (by decide)

/-- A shape is a name exactly if it has no suffix. -/
theorem Script.IsShape.isName_iff
    {shape : String}
    (isShape : IsShape shape) :
    IsName shape ↔ (Target.shape shape).isSuffixed = false := by
  obtain ⟨base, isBase, suffix, form, suffixForm⟩ := isShape.split
  rw [Target.isSuffixed, ← Bool.not_eq_true, List.contains_iff_mem]
  constructor
  · exact IsName.colon_not_mem
  · intro noColon
    rcases suffixForm with rfl | ⟨first, more, rfl, -⟩
    · have isRuleName : ∀ base ∈ shapes, isRuleName base = true := by decide
      rw [List.append_nil, String.toList_inj] at form
      exact form ▸ isName_of_isRuleName (isRuleName base isBase)
    · exact absurd (by simp [form]) noColon

/-- A target that a script spells is called by a name unless it has a suffix. -/
theorem Target.isName_name_iff
    {target : Target}
    (spelled : target.IsSpelled) :
    IsName target.name ↔ target.isSuffixed = false := by
  cases target with
  | rule name => exact ⟨fun _ => rfl, fun _ => isName_of_isRuleName spelled.1⟩
  | shape name => exact IsShape.isName_iff spelled

theorem Target.conforms_of_isSpelled
    {target : Target}
    (spelled : target.IsSpelled) :
    target.Conforms := by
  cases target with
  | rule name => exact isName_of_isRuleName spelled.1
  | shape name => exact (Description.search_shapePattern_iff name).mpr spelled

/-! Conformance. -/

namespace RuleSet

/--
A chain of loops calls a target of the right form if its helper rules can be
named.
-/
theorem chainTarget_conforms
    {target : Target}
    (spelled : target.IsSpelled)
    (number : Nat)
    {loops : List Loop}
    (named : loops ≠ [] → IsName target.name) :
    (chainTarget target number loops).Conforms := by
  cases loops with
  | nil => exact Target.conforms_of_isSpelled spelled
  | cons loop rest =>
      exact (isName_helperName_iff target.name number).mpr (named (by simp))

/--
An unrolled call has a target of the right form if its helper rules can be
named.
-/
theorem unrollCall_conforms
    {site : CallSite}
    (spelled : site.IsSpelled)
    (named : 2 ≤ site.loops.length → IsName site.target.name)
    (number : Nat) :
    (unrollCall number site).target.Conforms := by
  obtain ⟨loops, target, line⟩ := site
  cases loops with
  | nil => exact Target.conforms_of_isSpelled spelled.target
  | cons first rest =>
      refine chainTarget_conforms spelled.target number fun chained => named ?_
      rw [List.length_cons]
      exact Nat.succ_le_succ (List.length_pos_iff.mpr chained)

/-- Helper rules have the right form if they can be named. -/
theorem callHelpers_conforms
    {site : CallSite}
    (spelled : site.IsSpelled)
    (named : 2 ≤ site.loops.length → IsName site.target.name)
    {number : Nat}
    {helper : Rule}
    (member : helper ∈ callHelpers number site) :
    helper.Conforms := by
  obtain ⟨start, loop, inLoops, rest, rfl⟩ := mem_chainHelpers member
  have isName : IsName site.target.name := by
    apply named
    have some := List.length_pos_of_mem inLoops
    rw [List.length_drop] at some
    omega
  refine ⟨(isName_helperName_iff _ _).mpr isName, by simp, ?_⟩
  rw [List.forall_mem_singleton]
  exact chainTarget_conforms spelled.target _ fun _ => isName

/--
An unrolled rule has the right form if the helper rules of its calls can be
named.
-/
theorem unrolledRule_conforms
    {definition : RuleDefinition}
    (spelled : definition.IsSpelled)
    (named :
      ∀ site ∈ definition.body, 2 ≤ site.loops.length → IsName site.target.name)
    (number : Nat) :
    (unrolledRule number definition).Conforms := by
  refine ⟨isName_of_isRuleName spelled.name,
    fun name isName => isName_of_isRuleName (spelled.successor name isName),
    fun call inCalls => ?_⟩
  obtain ⟨start, site, inBody, rfl⟩ := mem_unrollBody_calls inCalls
  exact unrollCall_conforms (spelled.body site inBody) (named site inBody) start

/--
The definitions of a spelled script are spelled, that of the entry calls
included.
-/
theorem isSpelled_of_mem_definitions
    {script : Script}
    (spelled : script.IsSpelled)
    {definition : RuleDefinition}
    (member : definition ∈ entryDefinition script :: script.rules) :
    definition.IsSpelled := by
  rcases List.mem_cons.mp member with rfl | inRules
  · have isRuleName : isRuleName entryName = true := by decide
    exact ⟨isRuleName, nofun, nofun, nofun, fun _ => rfl, spelled.entry⟩
  · exact spelled.rules definition inRules

/-- The call sites of a spelled script are spelled. -/
theorem isSpelled_of_mem_sites
    {script : Script}
    (spelled : script.IsSpelled)
    {site : CallSite}
    (member : site ∈ script.sites) :
    site.IsSpelled := by
  rcases List.mem_append.mp member with inEntry | inRules
  · exact spelled.entry site inEntry
  · obtain ⟨definition, isRule, inBody⟩ := List.mem_flatMap.mp inRules
    exact (spelled.rules definition isRule).body site inBody

/--
All rules of a script conform unless loops around a shape with a
suffix are chained.
-/
theorem conforms_ofScript_iff
    {script : Script}
    (spelled : script.IsSpelled) :
    (∀ rule ∈ (ofScript script).rules, rule.Conforms) ↔
      ¬ script.LoopsSuffixedShape := by
  constructor
  · rintro conforms ⟨site, inSites, chained, suffixed⟩
    obtain ⟨start, madeUp⟩ :
        ∃ start, helperName site.target.name start ∈
          helperNames 0 script.sites :=
      exists_mem_helperNames inSites chained
    have defined :
        (ofScript script).defines (helperName site.target.name start) = true :=
      (defines_ofScript_iff script _).mpr (.inr (List.mem_cons_of_mem _ madeUp))
    obtain ⟨rule, inRules, isHelper⟩ :=
      List.mem_map.mp (List.contains_iff_mem.mp defined)
    have isName := (conforms rule inRules).name
    rw [isHelper, isName_helperName_iff,
      Target.isName_name_iff (isSpelled_of_mem_sites spelled inSites).target,
      suffixed] at isName
    cases isName
  · intro plain rule member
    have named (site : CallSite) (inSites : site ∈ script.sites)
        (chained : 2 ≤ site.loops.length) : IsName site.target.name := by
      have isTarget := (isSpelled_of_mem_sites spelled inSites).target
      rw [Target.isName_name_iff isTarget, ← Bool.not_eq_true]
      exact fun suffixed => plain ⟨site, inSites, chained, suffixed⟩
    rcases mem_unrollRules member with
      ⟨start, definition, isDefinition, rfl⟩ | ⟨start, site, inSites, isHelper⟩
    · refine unrolledRule_conforms
        (isSpelled_of_mem_definitions spelled isDefinition)
        (fun site inBody => named site ?_) start
      exact List.mem_flatMap.mpr ⟨definition, isDefinition, inBody⟩
    · exact callHelpers_conforms (isSpelled_of_mem_sites spelled inSites)
        (named site inSites)
        isHelper

end RuleSet

/-! Numerals. -/

namespace Script

/-- The characters of numbers have ink. -/
theorem holds_nonSpace_of_isNumeric
    {character : Char}
    (numeric : isNumeric character = true) :
    Description.nonSpace.holds character = true := by
  have checked : "0123456789.+-/()*".toList.all Description.nonSpace.holds =
      true := by decide
  exact List.all_eq_true.mp checked character (mem_of_isNumeric numeric)

theorem IsNumberText.trim_eq
    {text : String}
    (isNumber : IsNumberText text) :
    Text.trim text = text := by
  have kept (characters : List Char)
      (inText : ∀ character ∈ characters, character ∈ text.toList) :
      characters.dropWhile Text.isBlank = characters := by
    rw [List.dropWhile_eq_self_iff]
    intro nonempty
    simp [not_isBlank_of_isNumeric
      (isNumber.numeric _ (inText _ (List.getElem_mem nonempty)))]
  rw [Text.trim, Text.trimmed, kept _ fun _ => id, kept _ (by simp),
    List.reverse_reverse, String.ofList_toList]

end Script

/-- A numeral with the text of a number in a script. -/
def Numeral.IsScripted (numeral : Numeral) : Prop :=
  IsNumberText numeral.text

namespace Numeral

theorem isScripted_ofText
    {text : String}
    (isNumber : IsNumberText text) :
    (ofText text).IsScripted := by
  rw [IsScripted, ofText, isNumber.trim_eq]
  exact isNumber

/-- Numerals of scripts are trimmed. -/
theorem IsScripted.isTrimmed
    {numeral : Numeral}
    (scripted : numeral.IsScripted) :
    numeral.IsTrimmed where
  trimmed := scripted.trim_eq
  nonempty isEmpty := scripted.nonempty (by rw [isEmpty]; rfl)

theorem IsScripted.hasInk
    {numeral : Numeral}
    (scripted : numeral.IsScripted) :
    numeral.HasInk := by
  obtain ⟨character, member⟩ := List.exists_mem_of_ne_nil _ scripted.nonempty
  exact ⟨character, member,
    holds_nonSpace_of_isNumeric (scripted.numeric character member)⟩

end Numeral

namespace RuleSet

theorem isScripted_of_mem_map
    {field : Option String}
    (areNumbers : ∀ text ∈ field, IsNumberText text) :
    ∀ numeral ∈ field.map Numeral.ofText, numeral.IsScripted := by
  intro numeral member
  obtain ⟨text, isText, rfl⟩ := Option.mem_map.mp member
  exact Numeral.isScripted_ofText (areNumbers text isText)

/-- The count of an unrolled call is a numeral of the script. -/
theorem isScripted_of_mem_unrollCall
    {site : CallSite}
    (spelled : site.IsSpelled)
    (number : Nat) :
    ∀ count ∈ (unrollCall number site).count, count.IsScripted := by
  obtain ⟨loops, target, line⟩ := site
  cases loops with
  | nil => exact nofun
  | cons first rest =>
      exact isScripted_of_mem_map (spelled.loops first List.mem_cons_self).count

/-- The numerals of an unrolled rule are numerals of the script. -/
theorem isScripted_of_mem_unrolledRule
    {definition : RuleDefinition}
    (spelled : definition.IsSpelled)
    (number : Nat) :
    ∀ numeral ∈ (unrolledRule number definition).numerals,
      numeral.IsScripted := by
  rw [Rule.forall_mem_numerals_iff]
  refine ⟨isScripted_of_mem_map spelled.weight,
    isScripted_of_mem_map spelled.maxDepth, ?_⟩
  intro call inCalls
  obtain ⟨start, site, inBody, rfl⟩ := mem_unrollBody_calls inCalls
  exact isScripted_of_mem_unrollCall (spelled.body site inBody) start

/-- The numerals of helper rules are numerals of the script. -/
theorem isScripted_of_mem_callHelpers
    {site : CallSite}
    (spelled : site.IsSpelled)
    {number : Nat}
    {helper : Rule}
    (member : helper ∈ callHelpers number site) :
    ∀ numeral ∈ helper.numerals, numeral.IsScripted := by
  obtain ⟨start, loop, inLoops, rest, rfl⟩ := mem_chainHelpers member
  rw [Rule.forall_mem_numerals_iff]
  refine ⟨nofun, nofun, ?_⟩
  rw [List.forall_mem_singleton]
  exact isScripted_of_mem_map
    (spelled.loops loop (List.mem_of_mem_drop inLoops)).count

/-- All numerals of a script's rule set are written as numbers in a script. -/
theorem isScripted_of_mem_ofScript
    {script : Script}
    (spelled : script.IsSpelled) :
    ∀ numeral ∈ (ofScript script).numerals, numeral.IsScripted := by
  rw [numerals, List.forall_mem_cons]
  constructor
  · cases form : script.maxDepth with
    | none =>
        simp only [ofScript, form]
        exact ⟨⟨'1', rfl, rfl⟩, by decide⟩
    | some depth =>
        simp only [ofScript, form]
        exact Numeral.isScripted_ofText (spelled.maxDepth depth form)
  · intro numeral member
    obtain ⟨rule, inRules, inRule⟩ := List.mem_flatMap.mp member
    rcases mem_unrollRules inRules with
      ⟨start, definition, isDefinition, rfl⟩ | ⟨start, site, inSites, isHelper⟩
    · exact isScripted_of_mem_unrolledRule
        (isSpelled_of_mem_definitions spelled isDefinition)
        start numeral inRule
    · exact isScripted_of_mem_callHelpers
        (isSpelled_of_mem_sites spelled inSites) isHelper
        numeral inRule

end RuleSet

end Eisen
