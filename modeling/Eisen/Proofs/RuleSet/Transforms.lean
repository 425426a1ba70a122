import Eisen.Proofs.RuleSet.Signatures

namespace Eisen

/-!
# What the text of a block keeps

A rule set has the transformations of a loop as one text, in which the kinds
have other names than in scripts and nothing marks where one transformation
ends. The text still tells them apart: the numbers of scripts have no blanks and
no letters, so each name of a kind starts the next transformation. A reader for
such texts gives back what was written, and the signatures of calls keep it too.
-/

open Script

/-! Reading transformations back. -/

namespace Transform

/-- The words of rule sets for transformations and what they stand for. -/
def kinds : List (String × TransformKind) :=
  [("tx", .moveX), ("ty", .moveY), ("tz", .moveZ), ("rx", .turnX),
    ("ry", .turnY), ("rz", .turnZ),
    ("sa", .scale), ("s", .scale)]

/--
The transformations that some words stand for, and the operands in front of the
first of them.
-/
def ofWords : List String → List String × List Transform
  | [] => ([], [])
  | word :: rest =>
      match kinds.lookup word with
      | some kind => ([], ⟨kind, (ofWords rest).1⟩ :: (ofWords rest).2)
      | none => (word :: (ofWords rest).1, (ofWords rest).2)

/-- The two words for scaling stand for the same kind. -/
theorem lookup_kinds_word (transform : Transform) :
    kinds.lookup transform.word = some transform.kind := by
  obtain ⟨kind, values⟩ := transform
  cases kind with
  | scale =>
      unfold word
      dsimp only
      split
      · rfl
      · rfl
  | moveX => rfl
  | moveY => rfl
  | moveZ => rfl
  | turnX => rfl
  | turnY => rfl
  | turnZ => rfl

theorem isWord_word (transform : Transform) : Text.IsWord transform.word := by
  have checked : kinds.all (fun entry => !entry.1.toList.isEmpty &&
      entry.1.toList.all (!Text.isBlank ·)) = true := by
    decide
  obtain ⟨front, behind, form, -⟩ :=
    List.lookup_eq_some_iff.mp transform.lookup_kinds_word
  have isWord := List.all_eq_true.mp checked (transform.word, transform.kind)
    (by simp [form])
  simp only [Bool.and_eq_true, List.all_eq_true, Bool.not_eq_true',
    List.isEmpty_eq_false_iff]
    at isWord
  exact ⟨isWord.1, isWord.2⟩

/-- A number of a script has no letters, so that it is not taken for a kind. -/
theorem lookup_kinds_of_isNumberText
    {value : String}
    (isNumber : IsNumberText value) :
    kinds.lookup value = none := by
  have checked : kinds.all (fun entry => entry.1.toList.all (!isNumeric ·)) =
      true := by decide
  obtain ⟨first, isFirst, -⟩ := isNumber.starts
  have inValue := List.mem_of_mem_head? isFirst
  rw [List.lookup_eq_none_iff]
  intro entry member
  apply bne_iff_ne.mpr
  rintro rfl
  have letter :=
    List.all_eq_true.mp (List.all_eq_true.mp checked entry member) first inValue
  simp [isNumber.numeric first inValue] at letter

/--
Numbers in front of other words are the values that have not found an operator
yet.
-/
theorem ofWords_append_values
    {values : List String}
    (numbers : ∀ value ∈ values, IsNumberText value)
    (rest : List String) :
    ofWords (values ++ rest) =
      (values ++ (ofWords rest).1, (ofWords rest).2) := by
  induction values with
  | nil => rfl
  | cons value others inductionHypothesis =>
      obtain ⟨isNumber, areNumbers⟩ := List.forall_mem_cons.mp numbers
      rw [List.cons_append, ofWords, lookup_kinds_of_isNumberText isNumber,
        inductionHypothesis areNumbers]
      rfl

/-- The words of some transformations are read as these transformations. -/
theorem ofWords_flatMap_words
    {transforms : List Transform}
    (spelled : ∀ transform ∈ transforms, transform.IsSpelled) :
    ofWords (transforms.flatMap words) = ([], transforms) := by
  induction transforms with
  | nil => rfl
  | cons transform rest inductionHypothesis =>
      obtain ⟨isSpelled, areSpelled⟩ := List.forall_mem_cons.mp spelled
      rw [List.flatMap_cons, words, List.cons_append, ofWords,
        lookup_kinds_word, ofWords_append_values isSpelled.values,
        inductionHypothesis areSpelled]
      simp

theorem isWord_of_mem_words
    {transform : Transform}
    (spelled : transform.IsSpelled) :
    ∀ word ∈ transform.words, Text.IsWord word := by
  rw [words, List.forall_mem_cons]
  refine ⟨transform.isWord_word, fun value member => ?_⟩
  have isNumber := spelled.values value member
  exact ⟨isNumber.nonempty, fun character inValue =>
    not_isBlank_of_isNumeric (isNumber.numeric character inValue)⟩

end Transform

/-! The text of a block. -/

theorem transformText_eq_intercalate (transforms : List Transform) :
    transformText transforms =
      " ".intercalate (transforms.flatMap Transform.words) := by
  have some : ∀ group ∈ transforms.map Transform.words, group ≠ [] := by
    intro group member
    obtain ⟨transform, -, rfl⟩ := List.mem_map.mp member
    exact List.cons_ne_nil _ _
  have flat := Text.intercalate_map_intercalate some
  rwa [List.map_map, ← List.flatMap_def] at flat

section

variable
    {transforms others : List Transform}
    (spelled : ∀ transform ∈ transforms, transform.IsSpelled)

include spelled

/-- The text of a block is split into the words of its transformations. -/
theorem words_transformText :
    Text.words (transformText transforms) =
      transforms.flatMap Transform.words := by
  rw [transformText_eq_intercalate]
  apply Text.words_intercalate
  simp only [List.forall_mem_flatMap]
  exact fun transform member =>
    Transform.isWord_of_mem_words (spelled transform member)

/--
The text of a block has single blanks between its words and none at its ends.
-/
theorem intercalate_words_transformText :
    " ".intercalate (Text.words (transformText transforms)) =
      transformText transforms := by
  rw [words_transformText spelled, transformText_eq_intercalate]

/-- The words of a block are read as its transformations. -/
theorem ofWords_words_transformText :
    Transform.ofWords (Text.words (transformText transforms)) =
      ([], transforms) := by
  rw [words_transformText spelled]
  exact Transform.ofWords_flatMap_words spelled

/-- Transformations can be told from the words of their text. -/
theorem eq_of_words_transformText_eq
    (othersSpelled : ∀ transform ∈ others, transform.IsSpelled)
    (same : Text.words (transformText transforms) =
      Text.words (transformText others)) :
    transforms = others := by
  have read := ofWords_words_transformText spelled
  rw [same, ofWords_words_transformText othersSpelled] at read
  exact (congrArg Prod.snd read).symm

end

/-! Calls that carry a loop. -/

/-- One of the loops of some call site of a script. -/
def Script.HasLoop
    (script : Script)
    (loop : Loop) : Prop :=
  ∃ site ∈ script.sites, loop ∈ site.loops

/-- One of the calls of some rule. -/
def RuleSet.HasCall
    (ruleSet : RuleSet)
    (call : Call) : Prop :=
  ∃ rule ∈ ruleSet.rules, call ∈ rule.calls

theorem Script.HasLoop.isSpelled
    {script : Script}
    (spelled : script.IsSpelled)
    {loop : Loop}
    (occurs : script.HasLoop loop) :
    loop.IsSpelled := by
  obtain ⟨site, inSites, inLoops⟩ := occurs
  exact (RuleSet.isSpelled_of_mem_sites spelled inSites).loops loop inLoops

/-- Between calls without stray blanks and braces, signatures mix nothing up. -/
theorem Call.signature_eq_iff_equates
    {call other : Call}
    (plain : call.IsPlain)
    (otherPlain : other.IsPlain) :
    call.signature = other.signature ↔ call.Equates other := by
  rw [signature_eq_iff plain otherPlain.target, or_iff_left]
  intro swallowed
  obtain ⟨count, -, long, isLong, form⟩ := swallowed.count
  exact (otherPlain.count long isLong).2 (by simp [form])

namespace RuleSet

/-- Each loop of a chain has a helper rule that carries it. -/
theorem exists_mem_chainHelpers
    {target : Target}
    {loops : List Loop}
    {loop : Loop}
    (member : loop ∈ loops)
    (number : Nat) :
    ∃ helper ∈ chainHelpers target number loops, ∃ next,
      looped loop next ∈ helper.calls := by
  induction loops generalizing number with
  | nil => cases member
  | cons first rest inductionHypothesis =>
      rcases List.mem_cons.mp member with rfl | inRest
      · exact ⟨_, List.mem_cons_self, _, List.mem_singleton.mpr rfl⟩
      · obtain ⟨helper, inHelpers, carries⟩ :=
          inductionHypothesis inRest (number + 1)
        exact ⟨helper, List.mem_cons_of_mem _ inHelpers, carries⟩

/--
Each loop of a call site is carried by the call or by one of its helper rules.
-/
theorem exists_looped_of_mem_loops
    {site : CallSite}
    {loop : Loop}
    (member : loop ∈ site.loops)
    (number : Nat) :
    ∃ next, looped loop next = unrollCall number site ∨
      ∃ helper ∈ callHelpers number site, looped loop next ∈ helper.calls := by
  obtain ⟨loops, target, line⟩ := site
  cases loops with
  | nil => cases member
  | cons first rest =>
      rcases List.mem_cons.mp member with rfl | inRest
      · exact ⟨_, .inl rfl⟩
      · obtain ⟨helper, inHelpers, next, carries⟩ :=
          exists_mem_chainHelpers inRest number
        exact ⟨next, .inr ⟨helper, inHelpers, carries⟩⟩

/-- Each loop of a body is carried by one of its calls or helper rules. -/
theorem exists_looped_of_mem_body
    {sites : List CallSite}
    {site : CallSite}
    (inSites : site ∈ sites)
    {loop : Loop}
    (inLoops : loop ∈ site.loops)
    (number : Nat) :
    ∃ next, looped loop next ∈ (unrollBody number sites).1 ∨
      ∃ helper ∈ (unrollBody number sites).2,
        looped loop next ∈ helper.calls := by
  induction sites generalizing number with
  | nil => cases inSites
  | cons first rest inductionHypothesis =>
      rcases List.mem_cons.mp inSites with rfl | inRest
      · obtain ⟨next, isCall | ⟨helper, inHelpers, carries⟩⟩ :=
          exists_looped_of_mem_loops inLoops number
        · exact ⟨next, .inl (isCall ▸ List.mem_cons_self)⟩
        · exact ⟨next, .inr ⟨helper, List.mem_append_left _ inHelpers, carries⟩⟩
      · obtain ⟨next, inCalls | ⟨helper, inHelpers, carries⟩⟩ :=
          inductionHypothesis inRest (number + helperCount first)
        · exact ⟨next, .inl (List.mem_cons_of_mem _ inCalls)⟩
        · exact ⟨next, .inr
            ⟨helper, List.mem_append_right _ inHelpers, carries⟩⟩

/-- Each loop of some definitions is carried by a call of their rules. -/
theorem exists_looped_of_mem_definitions
    {definitions : List RuleDefinition}
    {site : CallSite}
    (inSites : site ∈ definitions.flatMap RuleDefinition.body)
    {loop : Loop}
    (inLoops : loop ∈ site.loops)
    (number : Nat) :
    ∃ next, ∃ rule ∈ unrollRules number definitions,
      looped loop next ∈ rule.calls := by
  induction definitions generalizing number with
  | nil => cases inSites
  | cons definition rest inductionHypothesis =>
      rcases List.mem_append.mp inSites with inBody | inRest
      · obtain ⟨next, inCalls | ⟨helper, inHelpers, carries⟩⟩ :=
          exists_looped_of_mem_body inBody inLoops number
        · exact ⟨next, _, List.mem_cons_self, inCalls⟩
        · exact ⟨next, helper,
            List.mem_cons_of_mem _ (List.mem_append_left _ inHelpers), carries⟩
      · obtain ⟨next, rule, inRules, carries⟩ := inductionHypothesis inRest _
        exact ⟨next, rule,
          List.mem_cons_of_mem _ (List.mem_append_right _ inRules), carries⟩

theorem exists_hasCall_looped
    {script : Script}
    {loop : Loop}
    (occurs : script.HasLoop loop) :
    ∃ target, (ofScript script).HasCall (looped loop target) := by
  obtain ⟨site, inSites, inLoops⟩ := occurs
  exact exists_looped_of_mem_definitions
    (show site ∈ (entryDefinition script :: script.rules).flatMap
      RuleDefinition.body from inSites)
    inLoops 0

/--
Calls of scripts that carry loops have the same signature where nothing but
spelling differs.
-/
theorem signature_looped_eq_iff
    {script other : Script}
    (spelled : script.IsSpelled)
    (otherSpelled : other.IsSpelled)
    {loop otherLoop : Loop}
    (occurs : script.HasLoop loop)
    (otherOccurs : other.HasLoop otherLoop)
    {target otherTarget : Target}
    (called : (ofScript script).HasCall (looped loop target))
    (otherCalled : (ofScript other).HasCall (looped otherLoop otherTarget)) :
    (looped loop target).signature = (looped otherLoop otherTarget).signature ↔
      target = otherTarget ∧
        Numeral.optionAgrees (loop.count.map Numeral.ofText)
          (otherLoop.count.map Numeral.ofText) = true ∧
        loop.transforms = otherLoop.transforms := by
  obtain ⟨rule, inRules, inCalls⟩ := called
  obtain ⟨otherRule, inOtherRules, inOtherCalls⟩ := otherCalled
  have plain := isPlain_of_mem_calls spelled inRules inCalls
  have otherPlain := isPlain_of_mem_calls otherSpelled inOtherRules inOtherCalls
  rw [Call.signature_eq_iff_equates plain otherPlain]
  constructor
  · intro equates
    refine ⟨equates.target, equates.count, ?_⟩
    exact eq_of_words_transformText_eq (occurs.isSpelled spelled).transforms
      (otherOccurs.isSpelled otherSpelled).transforms equates.words
  · rintro ⟨sameTarget, sameCount, sameTransforms⟩
    exact ⟨sameTarget, sameCount,
      congrArg (Text.words <| transformText ·) sameTransforms⟩

/--
The text of a loop's transformations tells them apart from those of every other
loop in a script, of the same source or of another one, and it has single blanks
where it has any. Each loop is carried by a call, and calls that carry loops
have the same signature exactly if the targets and the transformations are the
same and the counts agree.
-/
theorem transformText_loses_nothing
    {source otherSource : String}
    {script other : Script}
    (accepted : Script.ofSource source = .ok script)
    (otherAccepted : Script.ofSource otherSource = .ok other)
    {loop otherLoop : Loop}
    (occurs : script.HasLoop loop)
    (otherOccurs : other.HasLoop otherLoop) :
    (transformText loop.transforms = transformText otherLoop.transforms →
        loop.transforms = otherLoop.transforms) ∧
      " ".intercalate (Text.words (transformText loop.transforms)) =
        transformText loop.transforms ∧
      (∃ target, (ofScript script).HasCall (looped loop target)) ∧
      ∀ target otherTarget, (ofScript script).HasCall (looped loop target) →
        (ofScript other).HasCall (looped otherLoop otherTarget) →
          ((looped loop target).signature =
            (looped otherLoop otherTarget).signature ↔
            target = otherTarget ∧
              Numeral.optionAgrees (loop.count.map Numeral.ofText)
                (otherLoop.count.map Numeral.ofText) = true ∧
              loop.transforms = otherLoop.transforms) := by
  have spelled := isSpelled_of_ofSource accepted
  have otherSpelled := isSpelled_of_ofSource otherAccepted
  have areSpelled := (occurs.isSpelled spelled).transforms
  have othersSpelled := (otherOccurs.isSpelled otherSpelled).transforms
  refine ⟨fun same => ?_, intercalate_words_transformText areSpelled,
    exists_hasCall_looped occurs,
    fun target otherTarget called otherCalled => ?_⟩
  · exact eq_of_words_transformText_eq areSpelled othersSpelled
      (congrArg Text.words same)
  · exact signature_looped_eq_iff spelled otherSpelled occurs otherOccurs
      called otherCalled

/--
Two scalings with three numbers between them: the text says which
of them has two.
-/
theorem transformText_keeps_grouping_of_scales :
    ∃ script other,
      Script.ofSource "\x7b s 1 s 2 3 \x7d box" = .ok script ∧
        Script.ofSource "\x7b s 1 2 s 3 \x7d box" = .ok other ∧
        script.HasLoop ⟨none, [⟨.scale, ["1"]⟩, ⟨.scale, ["2", "3"]⟩]⟩ ∧
        other.HasLoop ⟨none, [⟨.scale, ["1", "2"]⟩, ⟨.scale, ["3"]⟩]⟩ ∧
        transformText [⟨.scale, ["1"]⟩, ⟨.scale, ["2", "3"]⟩] ≠
          transformText [⟨.scale, ["1", "2"]⟩, ⟨.scale, ["3"]⟩] := by
  let loop : Loop := ⟨none, [⟨.scale, ["1"]⟩, ⟨.scale, ["2", "3"]⟩]⟩
  let otherLoop : Loop := ⟨none, [⟨.scale, ["1", "2"]⟩, ⟨.scale, ["3"]⟩]⟩
  let script : Script := ⟨none, [⟨[loop], .shape "box", 1⟩], []⟩
  let other : Script := ⟨none, [⟨[otherLoop], .shape "box", 1⟩], []⟩
  have accepted : Script.ofSource "\x7b s 1 s 2 3 \x7d box" = .ok script := by
    decide +kernel
  have otherAccepted :
      Script.ofSource "\x7b s 1 2 s 3 \x7d box" = .ok other := by decide +kernel
  have occurs : script.HasLoop loop :=
    ⟨_, List.mem_cons_self, List.mem_cons_self⟩
  have otherOccurs : other.HasLoop otherLoop :=
    ⟨_, List.mem_cons_self, List.mem_cons_self⟩
  refine ⟨script, other, accepted, otherAccepted, occurs, otherOccurs,
    fun same => ?_⟩
  have equal : loop.transforms = otherLoop.transforms :=
    (transformText_loses_nothing accepted otherAccepted occurs otherOccurs).1
      same
  exact absurd equal (by decide)

end RuleSet

end Eisen
