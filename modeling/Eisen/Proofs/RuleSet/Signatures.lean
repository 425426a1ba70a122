import Eisen.Proofs.Description.Contents
import Eisen.Proofs.Json.RoundTrip
import Eisen.Proofs.RuleSet.Conformance
import Eisen.Proofs.Script.Writing
import Eisen.Proofs.Text.Words
import Mathlib.Data.List.Forall2

namespace Eisen

/-!
# What the comparison of calls can tell apart

Calls are compared by a text in which the target, the count and the
transformations stand side by side. Scripts and descriptions cannot put blanks
into a target, and a script cannot put a blank or a brace into a count. A
description can: its count may be any text. So a clean comparison means equal
calls, unless a count of the description is spelled like a count with
transformations behind it.
-/

open Script

/-! Signatures. -/

namespace Call

/--
The same call: the same target, the same count, and the same words of
transformations.
-/
structure Equates (script data : Call) : Prop where
  target : script.target = data.target
  count : Numeral.optionAgrees script.count data.count = true
  words : Text.words script.transforms = Text.words data.transforms

/--
A call of the same target without transformations, whose count is spelled like
the count and the transformations of the other call together.
-/
structure IsSwallowedBy (script data : Call) : Prop where
  target : script.target = data.target
  count : ∃ count ∈ script.count, ∃ other ∈ data.count,
    other.canonical =
      count.canonical ++ " \x7b" ++ script.plainTransforms ++ "\x7d"
  some : Text.words script.transforms ≠ []
  none : Text.words data.transforms = []

/-- A call without blanks and braces where a script has none. -/
structure IsPlain (call : Call) : Prop where
  target : ' ' ∉ call.target.name.toList
  count : ∀ count ∈ call.count,
    ' ' ∉ count.canonical.toList ∧ '\x7b' ∉ count.canonical.toList
  transforms : '\x7b' ∉ call.transforms.toList

end Call

/-- The kind and the name of a target. -/
def Target.label : Target → String
  | .rule name => "rule " ++ name
  | .shape name => "shape " ++ name

/-- The part of a signature for a count. -/
def countLabel : Option String → List Char
  | none => []
  | some count => ' ' :: 'x' :: count.toList

/-- The part of a signature for some transformations. -/
def blockLabel (transforms : String) : List Char :=
  if transforms.isEmpty then
    []
  else
    ' ' :: '\x7b' :: (transforms.toList ++ ['\x7d'])

/--
A signature is the target, the count and the transformations, each with its own
signs.
-/
theorem Call.toList_signature (call : Call) :
    call.signature.toList = call.target.label.toList ++
      (countLabel (call.count.map Numeral.canonical) ++
        blockLabel call.plainTransforms) := by
  obtain ⟨target, transforms, count⟩ := call
  cases target <;> cases count <;> simp only [signature] <;> split <;>
    simp [Target.label, countLabel, blockLabel, *]

/-- A name without blanks can be told from what stands behind a blank. -/
theorem append_inj_of_isApart
    {left right behind others : List Char}
    (noBlank : ' ' ∉ left)
    (noOther : ' ' ∉ right)
    (apart : IsApart behind)
    (otherApart : IsApart others)
    (same : left ++ behind = right ++ others) :
    left = right ∧ behind = others := by
  have taken {name tail : List Char} (noBlank : ' ' ∉ name)
      (apart : IsApart tail) :
      (name ++ tail).takeWhile
        (fun character => !(character == ' ')) = name := by
    refine takeWhile_append_of_isApart (fun character member => ?_)
      (by decide) apart
    have other : character ≠ ' ' := fun isBlank => noBlank (isBlank ▸ member)
    simpa using other
  have sameName : left = right := by
    rw [← taken noBlank apart, same, taken noOther otherApart]
  subst sameName
  exact ⟨rfl, List.append_cancel_left same⟩

/-- A target without blanks can be told from what follows it. -/
theorem Target.label_append_inj
    {left right : Target}
    {behind others : List Char}
    (noBlank : ' ' ∉ left.name.toList)
    (noOther : ' ' ∉ right.name.toList)
    (apart : IsApart behind)
    (otherApart : IsApart others)
    (same : left.label.toList ++ behind = right.label.toList ++ others) :
    left = right ∧ behind = others := by
  have names {name other : String}
      (noBlank : ' ' ∉ name.toList)
      (noOther : ' ' ∉ other.toList)
      (same : name.toList ++ behind = other.toList ++ others) :
      name = other ∧ behind = others :=
    (append_inj_of_isApart noBlank noOther apart otherApart same).imp_left
      String.toList_inj.mp
  cases left with
  | rule name =>
      cases right with
      | rule other =>
          have same : name.toList ++ behind = other.toList ++ others := by
            simpa [label] using same
          exact (names noBlank noOther same).imp_left (congrArg Target.rule)
      | shape other => simp [label] at same
  | shape name =>
      cases right with
      | rule other => simp [label] at same
      | shape other =>
          have same : name.toList ++ behind = other.toList ++ others := by
            simpa [label] using same
          exact (names noBlank noOther same).imp_left (congrArg Target.shape)

theorem blockLabel_empty : blockLabel "" = [] := rfl

/-- Transformations stand in braces behind a blank. -/
theorem blockLabel_of_ne
    {transforms : String}
    (some : transforms ≠ "") :
    blockLabel transforms =
      ' ' :: '\x7b' :: (transforms.toList ++ ['\x7d']) := by
  rw [blockLabel, if_neg (by simpa using some)]

theorem blockLabel_inj
    {left right : String} :
    blockLabel left = blockLabel right ↔ left = right := by
  constructor
  · intro same
    by_cases none : left = "" <;> by_cases noOther : right = ""
    · rw [none, noOther]
    · simp [none, blockLabel_empty, blockLabel_of_ne noOther] at same
    · simp [noOther, blockLabel_empty, blockLabel_of_ne none] at same
    · simpa [blockLabel_of_ne none, blockLabel_of_ne noOther,
        String.toList_inj] using same
  · intro same
    rw [same]

/-- The label of transformations never begins like that of a count. -/
theorem blockLabel_ne_countLabel
    (transforms count : String)
    (behind : List Char) :
    blockLabel transforms ≠ countLabel (some count) ++ behind := by
  by_cases none : transforms = ""
  · simp [countLabel, none, blockLabel_empty]
  · simp [countLabel, blockLabel_of_ne none]

/-- What follows a target begins with a blank, if anything follows it. -/
theorem isApart_labels
    (count : Option String)
    (transforms : String) :
    IsApart (countLabel count ++ blockLabel transforms) := by
  cases count with
  | some count => simp [IsApart, countLabel]
  | none =>
      by_cases some : transforms = ""
      · simp [IsApart, countLabel, some, blockLabel_empty]
      · simp [IsApart, countLabel, blockLabel_of_ne some]

/--
A count without blanks and braces, and transformations without an opening brace,
can be told from each other. They can be told from all other counts and
transformations too, except from a count that looks like both of them together.
-/
theorem append_blockLabel_eq
    {count other transforms others : String}
    (noBlank : ' ' ∉ count.toList)
    (noOpening : '\x7b' ∉ count.toList)
    (noBrace : '\x7b' ∉ transforms.toList)
    (same : count.toList ++ blockLabel transforms =
      other.toList ++ blockLabel others) :
    count = other ∧ transforms = others ∨
      other.toList = count.toList ++ blockLabel transforms ∧ transforms ≠ "" ∧
        others = "" := by
  by_cases none : transforms = "" <;> by_cases noOthers : others = ""
  · rw [none, noOthers, List.append_cancel_right_eq] at same
    exact .inl ⟨String.toList_inj.mp same, none.trans noOthers.symm⟩
  · rw [none, blockLabel_empty, List.append_nil,
      blockLabel_of_ne noOthers] at same
    exact absurd (by simp [same]) noBlank
  · rw [noOthers, blockLabel_empty, List.append_nil] at same
    exact .inr ⟨same.symm, none, noOthers⟩
  · -- the brace on the left is the only one there, so it is the first one on
    -- the right
    rw [blockLabel_of_ne none, blockLabel_of_ne noOthers] at same
    have braces :
        (count.toList ++ [' ']) ++ '\x7b' :: (transforms.toList ++ ['\x7d']) =
        (other.toList ++ [' ']) ++ '\x7b' :: (others.toList ++ ['\x7d']) := by
      simpa using same
    rw [List.append_cons_inj_of_notMem (by simpa using noOpening)
      (by simpa using noBrace)] at braces
    obtain ⟨sameCount, -, sameTransforms⟩ := braces
    exact .inl ⟨String.toList_inj.mp (List.append_cancel_right sameCount),
      String.toList_inj.mp (List.append_cancel_right sameTransforms)⟩

/--
The same of counts that may be absent: transformations do not look like a count.
-/
theorem labels_eq
    {count other : Option String}
    {transforms others : String}
    (plain : ∀ text ∈ count, ' ' ∉ text.toList ∧ '\x7b' ∉ text.toList)
    (noBrace : '\x7b' ∉ transforms.toList)
    (same : countLabel count ++ blockLabel transforms =
      countLabel other ++ blockLabel others) :
    count = other ∧ transforms = others ∨
      ∃ text ∈ count, ∃ long ∈ other,
        long.toList = text.toList ++ blockLabel transforms ∧
        transforms ≠ "" ∧ others = "" := by
  cases count with
  | none =>
      cases other with
      | none => exact .inl ⟨rfl, blockLabel_inj.mp same⟩
      | some long => exact absurd same (blockLabel_ne_countLabel _ _ _)
  | some text =>
      cases other with
      | none => exact absurd same.symm (blockLabel_ne_countLabel _ _ _)
      | some long =>
          obtain ⟨noBlank, noOpening⟩ := plain text rfl
          simp only [countLabel, List.cons_append, List.cons.injEq,
            true_and] at same
          rcases append_blockLabel_eq noBlank noOpening noBrace same with
            ⟨sameCount, sameTransforms⟩ | swallowed
          · exact .inl ⟨congrArg some sameCount, sameTransforms⟩
          · exact .inr ⟨text, rfl, long, rfl, swallowed⟩

namespace Call

theorem IsPlain.noBrace
    {call : Call}
    (plain : call.IsPlain) :
    '\x7b' ∉ call.plainTransforms.toList := by
  intro brace
  rcases Text.mem_toList_intercalate brace with
    isBlank | ⟨word, inWords, inWord⟩
  · cases isBlank
  · exact plain.transforms ((Text.mem_words inWords).2 _ inWord).2

theorem plainTransforms_eq_empty_iff (call : Call) :
    call.plainTransforms = "" ↔ Text.words call.transforms = [] :=
  Text.intercalate_words_eq_empty_iff call.transforms

/-- What calls with the same signature have in common. -/
theorem signature_eq_iff
    {script data : Call}
    (plain : script.IsPlain)
    (named : ' ' ∉ data.target.name.toList) :
    script.signature = data.signature ↔
      script.Equates data ∨ script.IsSwallowedBy data := by
  rw [← String.toList_inj, toList_signature, toList_signature]
  constructor
  · intro same
    obtain ⟨sameTarget, sameLabels⟩ :=
      Target.label_append_inj plain.target named
      (isApart_labels _ _) (isApart_labels _ _) same
    have counts : ∀ text ∈ script.count.map Numeral.canonical,
        ' ' ∉ text.toList ∧ '\x7b' ∉ text.toList := by
      intro text member
      obtain ⟨count, isCount, rfl⟩ := Option.mem_map.mp member
      exact plain.count count isCount
    rcases labels_eq counts plain.noBrace sameLabels with
      ⟨sameCount, sameTransforms⟩ | ⟨text, isText, long, isLong,
        form, some, none⟩
    · exact .inl ⟨sameTarget,
        (Numeral.map_canonical_eq_iff_optionAgrees _ _).mp sameCount,
        Text.words_eq_of_intercalate_eq sameTransforms⟩
    · obtain ⟨count, isCount, rfl⟩ := Option.mem_map.mp isText
      obtain ⟨other, isOther, rfl⟩ := Option.mem_map.mp isLong
      refine .inr ⟨sameTarget, ⟨count, isCount, other, isOther, ?_⟩,
        (plainTransforms_eq_empty_iff script).not.mp some,
        (plainTransforms_eq_empty_iff data).mp none⟩
      rw [← String.toList_inj, form, blockLabel_of_ne some]
      simp
  · rintro (⟨sameTarget, sameCount, sameWords⟩ |
      ⟨sameTarget, ⟨count, isCount, other, isOther, form⟩, some, none⟩)
    · rw [sameTarget,
        (Numeral.map_canonical_eq_iff_optionAgrees _ _).mpr sameCount,
        plainTransforms, sameWords]
      rfl
    · rw [← plainTransforms_eq_empty_iff] at none
      have some := (plainTransforms_eq_empty_iff script).not.mpr some
      rw [sameTarget, none, Option.mem_def.mp isCount,
        Option.mem_def.mp isOther, blockLabel_of_ne some, blockLabel_empty]
      simp [countLabel, form]

end Call

/-! Calls of scripts. -/

namespace Numeral

/-- The canonical form of a numeral of a script has signs of numbers only. -/
theorem IsScripted.not_mem_canonical
    {numeral : Numeral}
    (scripted : numeral.IsScripted)
    {character : Char}
    (notNumeric : ¬ Json.IsNumeric character)
    (notScripted : isNumeric character = false) :
    character ∉ numeral.canonical.toList := by
  intro member
  rw [canonical] at member
  cases form : numeral.number? with
  | none =>
      simp only [form] at member
      rw [scripted.numeric character member] at notScripted
      cases notScripted
  | some number =>
      simp only [form, numberText, String.toList_ofList] at member
      have inMagnitude : character ∈ '-' ::
          (if number.mantissa = 0 then
            ['0']
          else
            (Digits.shortest .up number).positional) := by
        split at member
        · exact member
        · exact List.mem_cons_of_mem _ member
      rcases List.mem_cons.mp inMagnitude with rfl | inDigits
      · exact notNumeric (by simp [Json.IsNumeric])
      · split at inDigits
        · rw [List.mem_singleton.mp inDigits] at notNumeric
          exact notNumeric (.inl rfl)
        · exact notNumeric
            (Json.isNumeric_of_mem_positional
              Digits.isDigit_of_mem_shortest inDigits)

end Numeral

/-- The transformations of a loop have no opening brace. -/
theorem noBrace_transformText
    {loop : Loop}
    (spelled : loop.IsSpelled) :
    '\x7b' ∉ (transformText loop.transforms).toList := by
  intro brace
  rcases Text.mem_toList_intercalate brace with isBlank | ⟨_, isText, inText⟩
  · cases isBlank
  · obtain ⟨transform, member, rfl⟩ := List.mem_map.mp isText
    rcases Text.mem_toList_intercalate inText with
      isBlank | ⟨word, isWord, inWord⟩
    · cases isBlank
    · rcases List.mem_cons.mp isWord with rfl | isValue
      · have words : ∀ word ∈ ["tx", "ty", "tz", "rx", "ry", "rz", "sa", "s"],
            '\x7b' ∉ word.toList := by
          decide
        refine words _ ?_ inWord
        unfold Transform.word
        split <;> first | decide | (split <;> decide)
      · have numeric := ((spelled.transforms transform member).values word
          isValue).numeric _ inWord
        cases numeric

theorem Script.IsWordText.noBlank
    {text : String}
    (isWord : IsWordText text) :
    ' ' ∉ text.toList := by
  obtain ⟨first, more, form, letter, word⟩ := isWord
  rw [form, List.mem_cons, not_or]
  refine ⟨fun isBlank => ?_, fun inRest => absurd (word ' ' inRest) (by decide)⟩
  rw [← isBlank] at letter
  exact absurd letter (by decide)

namespace RuleSet

/-- The targets of unrolled calls have no blank. -/
theorem noBlank_chainTarget
    {target : Target}
    (spelled : target.IsSpelled)
    (number : Nat)
    (loops : List Loop) :
    ' ' ∉ (chainTarget target number loops).name.toList := by
  have noBlank : ' ' ∉ target.name.toList :=
    IsWordText.noBlank (Target.isPlain spelled).whole
  cases loops with
  | nil => exact noBlank
  | cons loop rest =>
      have form : (chainTarget target number (loop :: rest)).name.toList =
          target.name.toList ++ '_' :: (twoDigits number).toList := by
        simp [chainTarget, Target.name, helperName]
      rw [form, List.mem_append, List.mem_cons, not_or, not_or]
      refine ⟨noBlank, by decide, fun inDigits => ?_⟩
      exact absurd (isNameCharacter_of_mem_twoDigits inDigits) (by decide)

/-- An unrolled source is an accepted script, unrolled. -/
theorem exists_script_of_ofSource
    {source : String}
    {ruleSet : RuleSet}
    (unrolled : ofSource source = .ok ruleSet) :
    ∃ script, Script.ofSource source = .ok script ∧
      ofScript script = ruleSet := by
  rw [ofSource] at unrolled
  cases accepted : Script.ofSource source with
  | error fault => simp [accepted] at unrolled
  | ok script => exact ⟨script, rfl, by simpa [accepted] using unrolled⟩

/--
A call of an unrolled script has no loop, or one of the loops of its call site.
-/
theorem mem_calls_ofScript
    {script : Script}
    {rule : Rule}
    (inRules : rule ∈ (ofScript script).rules)
    {call : Call}
    (inCalls : call ∈ rule.calls) :
    ∃ site ∈ script.sites, call = ⟨site.target, "", none⟩ ∨
      ∃ loop ∈ site.loops, ∃ start rest,
        call = looped loop (chainTarget site.target start rest) := by
  rcases mem_unrollRules inRules with
    ⟨start, definition, isDefinition, rfl⟩ | ⟨start, site, inSites, isHelper⟩
  · obtain ⟨start, site, inBody, rfl⟩ := mem_unrollBody_calls inCalls
    refine ⟨site, List.mem_flatMap.mpr ⟨definition, isDefinition, inBody⟩, ?_⟩
    obtain ⟨loops, target, line⟩ := site
    cases loops with
    | nil => exact .inl rfl
    | cons first rest =>
        exact .inr ⟨first, List.mem_cons_self, start, rest, rfl⟩
  · obtain ⟨start, loop, inLoops, rest, rfl⟩ := mem_chainHelpers isHelper
    exact ⟨site, inSites,
      .inr ⟨loop, List.mem_of_mem_drop inLoops, start + 1, rest,
          List.mem_singleton.mp inCalls⟩⟩

/-- The calls of an unrolled script are plain. -/
theorem isPlain_of_mem_calls
    {script : Script}
    (spelled : script.IsSpelled)
    {rule : Rule}
    (inRules : rule ∈ (ofScript script).rules)
    {call : Call}
    (inCalls : call ∈ rule.calls) :
    call.IsPlain := by
  obtain ⟨site, inSites, form⟩ := mem_calls_ofScript inRules inCalls
  have siteSpelled := isSpelled_of_mem_sites spelled inSites
  rcases form with rfl | ⟨loop, inLoops, start, rest, rfl⟩
  · exact ⟨noBlank_chainTarget siteSpelled.target 0 [], nofun, nofun⟩
  · have loopSpelled := siteSpelled.loops loop inLoops
    refine ⟨noBlank_chainTarget siteSpelled.target start rest,
      fun count isCount => ?_, noBrace_transformText loopSpelled⟩
    have scripted := isScripted_of_mem_map loopSpelled.count count isCount
    exact ⟨scripted.not_mem_canonical (by simp [Json.IsNumeric]) (by decide),
      scripted.not_mem_canonical (by simp [Json.IsNumeric]) (by decide)⟩

end RuleSet

/-! Calls of descriptions. -/

theorem Target.noBlank_of_conforms
    {target : Target}
    (conforms : target.Conforms) :
    ' ' ∉ target.name.toList := by
  cases target with
  | rule name => exact IsWordText.noBlank (IsName.isWordText conforms)
  | shape name =>
      exact IsWordText.noBlank
        (isPlain_shape
          ((Description.search_shapePattern_iff name).mp conforms)).whole

/-! Clean comparisons. -/

namespace RuleSet

/-- Calls at the same place of variants at the same place are related. -/
def RelatesCalls
    (Relates : Call → Call → Prop)
    (left right : RuleSet) : Prop :=
  ∀ name, List.Forall₂
    (fun rule other => List.Forall₂ Relates rule.calls other.calls)
    (left.variants name) (right.variants name)

/--
Lists with the same views are related item by item where equal views relate.
-/
theorem forall₂_of_map_eq
    {α β γ : Type}
    {Relates : α → β → Prop}
    {view : α → γ}
    {other : β → γ}
    {lefts : List α}
    {rights : List β}
    (same : lefts.map view = rights.map other)
    (relates : ∀ left ∈ lefts, ∀ right ∈ rights,
      view left = other right → Relates left right) :
    List.Forall₂ Relates lefts rights := by
  rw [← List.forall₂_eq_eq_eq, List.forall₂_map_left_iff,
    List.forall₂_map_right_iff, List.forall₂_iff_zip] at same
  refine List.forall₂_iff_zip.mpr ⟨same.1, fun inZip => ?_⟩
  obtain ⟨inLefts, inRights⟩ := List.of_mem_zip inZip
  exact relates _ inLefts _ inRights (same.2 inZip)

/--
Where the parameters are the same, calls at the same place have
the same signature.
-/
theorem SameParameters.relatesCalls
    {left right : RuleSet}
    (same : left.SameParameters right)
    {Relates : Call → Call → Prop}
    (relates : ∀ rule ∈ left.rules, ∀ call ∈ rule.calls,
      ∀ other ∈ right.rules, ∀ otherCall ∈ other.calls,
        call.signature = otherCall.signature → Relates call otherCall) :
    left.RelatesCalls Relates right := by
  intro name
  refine forall₂_of_map_eq (same.variants name)
    fun rule inLeft other inRight sameRule => ?_
  refine forall₂_of_map_eq (congrArg RuleParameters.calls sameRule) ?_
  exact fun call inCalls otherCall inOther =>
    relates rule (List.mem_filter.mp inLeft).1 call inCalls other
      (List.mem_filter.mp inRight).1
      otherCall inOther

/-- In related lists every item on the right has a partner on the left. -/
theorem exists_mem_of_forall₂
    {α β : Type}
    {Relates : α → β → Prop}
    {lefts : List α}
    {rights : List β}
    (related : List.Forall₂ Relates lefts rights)
    {right : β}
    (member : right ∈ rights) :
    ∃ left ∈ lefts, Relates left right := by
  induction related with
  | nil => cases member
  | cons first _ inductionHypothesis =>
      rcases List.mem_cons.mp member with rfl | inRest
      · exact ⟨_, List.mem_cons_self, first⟩
      · obtain ⟨left, inLefts, relates⟩ := inductionHypothesis inRest
        exact ⟨left, List.mem_cons_of_mem _ inLefts, relates⟩

/-- Every call on the right has a call on the left that is related to it. -/
theorem RelatesCalls.exists_call
    {Relates : Call → Call → Prop}
    {left right : RuleSet}
    (relates : left.RelatesCalls Relates right)
    {other : Rule}
    (inRight : other ∈ right.rules)
    {otherCall : Call}
    (inOther : otherCall ∈ other.calls) :
    ∃ rule ∈ left.rules, ∃ call ∈ rule.calls, Relates call otherCall := by
  have isVariant : other ∈ right.variants other.name :=
    List.mem_filter.mpr ⟨inRight, beq_self_eq_true _⟩
  obtain ⟨rule, inLeft, calls⟩ :=
    exists_mem_of_forall₂ (relates other.name) isVariant
  obtain ⟨call, inCalls, related⟩ := exists_mem_of_forall₂ calls inOther
  exact ⟨rule, (List.mem_filter.mp inLeft).1, call, inCalls, related⟩

section

variable
    {script : Script}
    (spelled : script.IsSpelled)
    {data : RuleSet}

include spelled

/-- Calls of a script and of a description with the same signature. -/
theorem equates_or_isSwallowedBy
    (conforms : ∀ rule ∈ data.rules, rule.Conforms)
    {rule : Rule}
    (inRules : rule ∈ (ofScript script).rules)
    {call : Call}
    (inCalls : call ∈ rule.calls)
    {other : Rule}
    (inData : other ∈ data.rules)
    {otherCall : Call}
    (inOther : otherCall ∈ other.calls)
    (same : call.signature = otherCall.signature) :
    call.Equates otherCall ∨ call.IsSwallowedBy otherCall := by
  have plain := isPlain_of_mem_calls spelled inRules inCalls
  have noBlank :=
    Target.noBlank_of_conforms ((conforms other inData).calls otherCall inOther)
  exact (Call.signature_eq_iff plain noBlank).mp same

/-- A count that is equal to the count of a script has no brace. -/
theorem noBrace_of_relatesCalls_equates
    (equates : (ofScript script).RelatesCalls Call.Equates data) :
    ∀ rule ∈ data.rules, ∀ call ∈ rule.calls, ∀ count ∈ call.count,
      '\x7b' ∉ count.canonical.toList := by
  intro other inData otherCall inOther count isCount
  obtain ⟨rule, inRules, call, inCalls, equal⟩ :=
    equates.exists_call inData inOther
  have agree := (Numeral.map_canonical_eq_iff_optionAgrees _ _).mpr equal.count
  rw [Option.mem_def.mp isCount] at agree
  obtain ⟨scripted, isScripted, sameCount⟩ := Option.map_eq_some_iff.mp agree
  rw [← sameCount]
  exact ((isPlain_of_mem_calls spelled inRules inCalls).count scripted
    isScripted).2

end

/--
Where the comparison of a script with a description is clean, each call of
the script is the call of the description at the same place, or it is
swallowed by the count of that call. It takes a brace in a count of the
description to swallow one.
-/
theorem relatesCalls_of_clean_comparison
    {source : String}
    {ruleSet : RuleSet}
    (unrolled : ofSource source = .ok ruleSet)
    {content : String}
    {description : Description}
    (isRead : Description.read .embedded content = .ok description)
    (clean : ruleSet.differences description.ruleSet = []) :
    ruleSet.RelatesCalls
      (fun call other => call.Equates other ∨ call.IsSwallowedBy other)
        description.ruleSet ∧
      (ruleSet.RelatesCalls Call.Equates description.ruleSet ↔
        ∀ rule ∈ description.ruleSet.rules, ∀ call ∈ rule.calls,
          ∀ count ∈ call.count,
          '\x7b' ∉ count.canonical.toList) := by
  have same := (differences_eq_nil_iff_sameParameters _ _).mp clean
  have conforms := Description.conforms_of_read isRead
  obtain ⟨script, accepted, rfl⟩ := exists_script_of_ofSource unrolled
  have spelled := isSpelled_of_ofSource accepted
  refine ⟨same.relatesCalls ?_, noBrace_of_relatesCalls_equates spelled,
    fun noBrace =>
    same.relatesCalls ?_⟩
  · intro rule inRules call inCalls other inData otherCall inOther
    exact equates_or_isSwallowedBy spelled conforms inRules inCalls
      inData inOther
  · intro rule inRules call inCalls other inData otherCall inOther sameSignature
    rcases equates_or_isSwallowedBy spelled conforms inRules inCalls
      inData inOther
      sameSignature with equates | swallowed
    · exact equates
    · obtain ⟨count, -, long, isLong, form⟩ := swallowed.count
      exact absurd (by simp [form])
        (noBrace other inData otherCall inOther long isLong)

theorem eq_ok_of_toOption
    {ε α : Type}
    {result : Except ε α}
    {value : α}
    (found : result.toOption = some value) :
    result = .ok value := by
  cases result <;> cases found
  rfl

/-- A loop with a transformation compares clean with a call that has none. -/
theorem clean_comparison_of_swallowed_transforms :
    ∃ ruleSet description,
      ofSource "2 * \x7b x 1 \x7d box" = .ok ruleSet ∧
        Description.read .embedded
          ("\x7b\"rules\":[\x7b\"name\":\"entry\",\"calls\":[" ++
            "\x7b\"shape\":\"box\",\"transforms\":\"\"," ++
            "\"count\":\"2 \x7btx 1\x7d\"\x7d]\x7d]\x7d") =
              .ok description ∧
        ruleSet.differences description.ruleSet = [] ∧
        ¬ ruleSet.RelatesCalls Call.Equates description.ruleSet := by
  let ruleSet : RuleSet :=
    ⟨⟨"1000"⟩,
      [⟨"entry", none, none, none, [⟨.shape "box", "tx 1", some ⟨"2"⟩⟩]⟩]⟩
  let description : Description :=
    ⟨none, none, ⟨⟨"1000"⟩, [⟨"entry", none, none, none,
      [⟨.shape "box", "", some ⟨"2 \x7btx 1\x7d"⟩⟩]⟩]⟩⟩
  have unrolled : ofSource "2 * \x7b x 1 \x7d box" = .ok ruleSet := by
    decide +kernel
  have isRead : Description.read .embedded
      ("\x7b\"rules\":[\x7b\"name\":\"entry\",\"calls\":[" ++
        "\x7b\"shape\":\"box\",\"transforms\":\"\"," ++
        "\"count\":\"2 \x7btx 1\x7d\"\x7d]\x7d]\x7d") =
          .ok description :=
    eq_ok_of_toOption (by decide +kernel)
  have clean : ruleSet.differences description.ruleSet = [] := by decide +kernel
  refine ⟨ruleSet, description, unrolled, isRead, clean, ?_⟩
  rw [(relatesCalls_of_clean_comparison unrolled isRead clean).2]
  decide

end RuleSet

end Eisen
