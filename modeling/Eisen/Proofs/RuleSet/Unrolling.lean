import Eisen.RuleSet.Unrolling
import Mathlib.Algebra.GroupWithZero.Nat

namespace Eisen.RuleSet

/-!
# Unrolling keeps every loop in its place

What the rule set of a script holds, stated by position: which rule stands
where, which call stands at which index of it, which helper rules follow it, and
which loop each of them carries. Helper rules are numbered by one counter, and a
call site needs one for each of its loops but the first, so the first number of
a call site is the sum of these over all call sites in front of it.
-/

/-- The text and the count that a call or a helper rule carries for a loop. -/
def loopLabel (loop : Loop) : String × Option Numeral :=
  (transformText loop.transforms, loop.count.map Numeral.ofText)

/--
What the link in front of an index names: the helper there, or the
target at the end.
-/
def nextTarget
    (target : Target)
    (helpers : List Rule)
    (index : Nat) : Target :=
  match helpers[index]? with
  | some helper => .rule helper.name
  | none => target

/--
A call and its helper rules stand for a call site whose helper rules are
numbered from `start`.
-/
structure UnrollsSite
    (start : Nat)
    (site : CallSite)
    (call : Call)
    (helpers : List Rule) : Prop where
  /-- Every loop but the first has a helper rule. -/
  helperCount : helpers.length = site.loops.length - 1
  /-- A call without a loop carries nothing. -/
  bare : site.loops = [] → (call.transforms, call.count) = ("", none)
  /-- A call with a loop carries the outermost one. -/
  outermost : ∀ loop ∈ site.loops.head?,
    (call.transforms, call.count) = loopLabel loop
  /-- A call names the first helper rule or the target. -/
  target : call.target = nextTarget site.target helpers 0
  /--
  A helper rule carries its own loop and names the next helper rule
  or the target. Its own name is that of the target with a number of
  two digits or more.
  -/
  link : ∀ (index : Nat) (helper : Rule),
    helpers[index]? = some helper →
      ∃ loop, site.loops[index + 1]? = some loop ∧
        helper =
          { name :=
              site.target.name ++ "_" ++
                (if start + index < 10 then "0" else "") ++
                toString (start + index)
            weight := none
            maxDepth := none
            successor := none
            calls :=
              [⟨nextTarget site.target helpers (index + 1), (loopLabel loop).1,
              (loopLabel loop).2⟩] }

/--
The loops that a call and the helper rules behind it carry, and the target at
their end. The helper rules are taken by position, and each link has to name the
next one.
-/
def followLinks? :
    Call → List Rule → Option (List (String × Option Numeral) × Target)
  | call, [] => some ([(call.transforms, call.count)], call.target)
  | call, helper :: rest =>
      match helper.calls with
      | [link] =>
          if call.target = .rule helper.name then
            (followLinks? link rest).map fun found =>
              ((call.transforms, call.count) :: found.1, found.2)
          else
            none
      | _ => none

/--
Calls and chains of helper rules stand for the call sites of a body, index by
index, and following the links from a call leads through all loops of its site.
-/
structure UnrollsBody
    (start : Nat)
    (sites : List CallSite)
    (calls : List Call)
    (chains : List (List Rule)) : Prop where
  callCount : calls.length = sites.length
  chainCount : chains.length = sites.length
  unrolls : ∀ (index : Nat) (site : CallSite) (call : Call) (chain : List Rule),
    sites[index]? = some site → calls[index]? = some call →
      chains[index]? = some chain →
      UnrollsSite
        (start +
          ((sites.take index).map fun earlier => earlier.loops.length - 1).sum)
        site call chain
  follows : ∀ (index : Nat) (site : CallSite) (call : Call) (chain : List Rule),
    sites[index]? = some site → calls[index]? = some call →
      chains[index]? = some chain →
      site.loops ≠ [] →
        followLinks? call chain = some (site.loops.map loopLabel, site.target)

/-- A rule and the helper rules behind it stand for a definition. -/
structure UnrollsDefinition
    (start : Nat)
    (definition : RuleDefinition)
    (rule : Rule)
    (helpers : List Rule) : Prop where
  name : rule.name = definition.name
  weight : rule.weight = definition.weight.map Numeral.ofText
  maxDepth : rule.maxDepth = definition.maxDepth.map Numeral.ofText
  successor : rule.successor = definition.successor
  body : ∃ chains,
    helpers = chains.flatten ∧
      UnrollsBody start definition.body rule.calls chains

/-! Numbers. -/

/--
A helper rule is named after its target, with a number of two digits or more.
-/
theorem helperName_eq
    (target : String)
    (number : Nat) :
    helperName target number =
      target ++ "_" ++ (if number < 10 then "0" else "") ++
        toString number := by
  rw [helperName, twoDigits]
  split
  · rw [← String.append_assoc]
  · rw [String.append_empty]

/-- Every loop but the first of a call site needs a helper rule. -/
theorem bodyHelperCount_eq_sum (sites : List CallSite) :
    bodyHelperCount sites =
      (sites.map fun site => site.loops.length - 1).sum := by
  induction sites with
  | nil => rfl
  | cons site rest inductionHypothesis =>
      rw [bodyHelperCount, inductionHypothesis, List.map_cons, List.sum_cons,
        helperCount]

/-! Chains of loops. -/

/-- A chain has a helper rule for each loop. -/
theorem length_chainHelpers
    (target : Target)
    (number : Nat)
    (loops : List Loop) :
    (chainHelpers target number loops).length = loops.length := by
  induction loops generalizing number with
  | nil => rfl
  | cons loop rest inductionHypothesis =>
      simp [chainHelpers, inductionHypothesis]

/-- A chain is entered through its first helper rule. -/
theorem chainTarget_eq_nextTarget
    (target : Target)
    (number : Nat)
    (loops : List Loop) :
    chainTarget target number loops =
      nextTarget target (chainHelpers target number loops) 0 := by
  cases loops <;> rfl

/--
The helper rule at an index carries the loop there and names the next one.
-/
theorem chainHelpers_getElem?
    {target : Target}
    {number index : Nat}
    {loops : List Loop}
    {helper : Rule}
    (found : (chainHelpers target number loops)[index]? = some helper) :
    ∃ loop, loops[index]? = some loop ∧
      helper =
        { name :=
            target.name ++ "_" ++ (if number + index < 10 then "0" else "") ++
              toString (number + index)
          weight := none
          maxDepth := none
          successor := none
          calls :=
            [⟨nextTarget target (chainHelpers target number loops) (index + 1),
            (loopLabel loop).1, (loopLabel loop).2⟩] } := by
  simp only [← helperName_eq]
  induction loops generalizing number index with
  | nil => simp [chainHelpers] at found
  | cons loop rest inductionHypothesis =>
      cases index with
      | zero =>
          simp only [chainHelpers, List.getElem?_cons_zero,
            Option.some.injEq] at found
          refine ⟨loop, rfl, ?_⟩
          rw [← found, looped, chainTarget_eq_nextTarget]
          rfl
      | succ previous =>
          simp only [chainHelpers, List.getElem?_cons_succ] at found
          obtain ⟨carried, atIndex, shape⟩ := inductionHypothesis found
          refine ⟨carried, atIndex, ?_⟩
          rw [shape, Nat.add_assoc, Nat.add_comm 1 previous]
          rfl

/-- Following the links of a chain leads through its loops to the target. -/
theorem followLinks?_chainHelpers
    (target : Target)
    (number : Nat)
    (first : Loop)
    (rest : List Loop) :
    followLinks? (looped first (chainTarget target number rest))
        (chainHelpers target number rest) =
      some ((first :: rest).map loopLabel, target) := by
  induction rest generalizing number first with
  | nil => rfl
  | cons second others inductionHypothesis =>
      have later := inductionHypothesis (number + 1) second
      simp only [chainHelpers, followLinks?, chainTarget, looped,
        ↓reduceIte] at later ⊢
      rw [later]
      rfl

/-! Call sites and bodies. -/

/-- A call and its helper rules stand for their call site. -/
theorem unrollsSite_unrollCall
    (number : Nat)
    (site : CallSite) :
    UnrollsSite number site (unrollCall number site)
      (callHelpers number site) := by
  rcases site with ⟨loops, target, line⟩
  cases loops with
  | nil =>
      exact
        { helperCount := rfl
          bare := fun _ => rfl
          outermost := by simp
          target := rfl
          link := by simp [callHelpers, chainHelpers] }
  | cons first rest =>
      exact
        { helperCount := length_chainHelpers target number rest
          bare := by simp
          outermost := by
            intro loop isFirst
            cases isFirst
            rfl
          target := chainTarget_eq_nextTarget target number rest
          link := by
            intro index helper found
            obtain ⟨loop, atIndex, shape⟩ := chainHelpers_getElem? found
            exact ⟨loop, atIndex, shape⟩ }

/-- The chains of helper rules of some call sites, numbered from `number`. -/
def chainsFrom
    (number : Nat) :
    List CallSite → List (List Rule)
  | [] => []
  | site :: rest =>
      callHelpers number site :: chainsFrom (number + helperCount site) rest

/-- The helper rules of a body are the chains of its call sites in order. -/
theorem unrollBody_helpers
    (number : Nat)
    (sites : List CallSite) :
    (unrollBody number sites).2 = (chainsFrom number sites).flatten := by
  induction sites generalizing number with
  | nil => rfl
  | cons site rest inductionHypothesis =>
      simp only [unrollBody, chainsFrom, List.flatten_cons, inductionHypothesis]

/-- The call at an index is the one of the call site there. -/
theorem unrollBody_calls_getElem?
    (number index : Nat)
    (sites : List CallSite) :
    (unrollBody number sites).1[index]? =
      sites[index]?.map
        (unrollCall (number + bodyHelperCount (sites.take index))) := by
  induction sites generalizing number index with
  | nil => simp [unrollBody]
  | cons site rest inductionHypothesis =>
      cases index with
      | zero => simp [unrollBody, bodyHelperCount]
      | succ previous =>
          simp [unrollBody, bodyHelperCount, inductionHypothesis, Nat.add_assoc]

/-- The chain at an index is the one of the call site there. -/
theorem chainsFrom_getElem?
    (number index : Nat)
    (sites : List CallSite) :
    (chainsFrom number sites)[index]? =
      sites[index]?.map
        (callHelpers (number + bodyHelperCount (sites.take index))) := by
  induction sites generalizing number index with
  | nil => simp [chainsFrom]
  | cons site rest inductionHypothesis =>
      cases index with
      | zero => simp [chainsFrom, bodyHelperCount]
      | succ previous =>
          simp [chainsFrom, bodyHelperCount, inductionHypothesis, Nat.add_assoc]

/-- A body keeps the number of its calls. -/
theorem length_unrollBody_calls
    (number : Nat)
    (sites : List CallSite) :
    (unrollBody number sites).1.length = sites.length := by
  induction sites generalizing number with
  | nil => rfl
  | cons site rest inductionHypothesis =>
      simp [unrollBody, inductionHypothesis]

/-- Every call site has a chain, which may be empty. -/
theorem length_chainsFrom
    (number : Nat)
    (sites : List CallSite) :
    (chainsFrom number sites).length = sites.length := by
  induction sites generalizing number with
  | nil => rfl
  | cons site rest inductionHypothesis =>
      simp [chainsFrom, inductionHypothesis]

/-- The unrolled form of a body stands for it. -/
theorem unrollsBody_unrollBody
    (number : Nat)
    (sites : List CallSite) :
    UnrollsBody number sites (unrollBody number sites).1
      (chainsFrom number sites) where
  callCount := length_unrollBody_calls number sites
  chainCount := length_chainsFrom number sites
  unrolls index site call chain atSite atCall atChain := by
    rw [unrollBody_calls_getElem?, atSite] at atCall
    rw [chainsFrom_getElem?, atSite] at atChain
    cases atCall
    cases atChain
    rw [← bodyHelperCount_eq_sum]
    exact unrollsSite_unrollCall _ site
  follows index site call chain atSite atCall atChain someLoop := by
    rw [unrollBody_calls_getElem?, atSite] at atCall
    rw [chainsFrom_getElem?, atSite] at atChain
    cases atCall
    cases atChain
    rcases site with ⟨loops, target, line⟩
    cases loops with
    | nil => exact (someLoop rfl).elim
    | cons first rest => exact followLinks?_chainHelpers target _ first rest

/-! Definitions and scripts. -/

/-- The helper rules of two bodies are counted together. -/
theorem bodyHelperCount_append
    (front behind : List CallSite) :
    bodyHelperCount (front ++ behind) =
      bodyHelperCount front + bodyHelperCount behind := by
  induction front with
  | nil => simp [bodyHelperCount]
  | cons site rest inductionHypothesis =>
      simp [bodyHelperCount, inductionHypothesis, Nat.add_assoc]

/-- The rule of a definition, its helper rules numbered from `number`. -/
def unrolledRule
    (number : Nat)
    (definition : RuleDefinition) : Rule where
  name := definition.name
  weight := definition.weight.map Numeral.ofText
  maxDepth := definition.maxDepth.map Numeral.ofText
  successor := definition.successor
  calls := (unrollBody number definition.body).1

/-- The rules of some definitions, each with its helper rules. -/
def blocksFrom
    (number : Nat) :
    List RuleDefinition → List (Rule × List Rule)
  | [] => []
  | definition :: rest =>
      (unrolledRule number definition, (unrollBody number definition.body).2) ::
        blocksFrom (number + bodyHelperCount definition.body) rest

/-- The rules of definitions are their blocks, one behind the other. -/
theorem unrollRules_eq_blocks
    (number : Nat)
    (definitions : List RuleDefinition) :
    unrollRules number definitions =
      (blocksFrom number definitions).flatMap fun block =>
        block.1 :: block.2 := by
  induction definitions generalizing number with
  | nil => rfl
  | cons definition rest inductionHypothesis =>
      simp only [unrollRules, blocksFrom, List.flatMap_cons,
        inductionHypothesis, List.cons_append]
      rfl

/-- The block at an index is the one of the definition there. -/
theorem blocksFrom_getElem?
    (number index : Nat)
    (definitions : List RuleDefinition) :
    (blocksFrom number definitions)[index]? =
      definitions[index]?.map fun definition =>
        let start :=
          number +
            bodyHelperCount
              ((definitions.take index).flatMap RuleDefinition.body)
        (unrolledRule start definition,
          (unrollBody start definition.body).2) := by
  induction definitions generalizing number index with
  | nil => simp [blocksFrom]
  | cons definition rest inductionHypothesis =>
      cases index with
      | zero => simp [blocksFrom, bodyHelperCount]
      | succ previous =>
          simp [blocksFrom, inductionHypothesis, bodyHelperCount_append,
            Nat.add_assoc]

/-- Every definition has a block. -/
theorem length_blocksFrom
    (number : Nat)
    (definitions : List RuleDefinition) :
    (blocksFrom number definitions).length = definitions.length := by
  induction definitions generalizing number with
  | nil => rfl
  | cons definition rest inductionHypothesis =>
      simp [blocksFrom, inductionHypothesis]

/-- The unrolled form of a definition stands for it. -/
theorem unrollsDefinition_unrolledRule
    (number : Nat)
    (definition : RuleDefinition) :
    UnrollsDefinition number definition (unrolledRule number definition)
      (unrollBody number definition.body).2 where
  name := rfl
  weight := rfl
  maxDepth := rfl
  successor := rfl
  body :=
    ⟨chainsFrom number definition.body,
      unrollBody_helpers number definition.body,
      unrollsBody_unrollBody number definition.body⟩

/--
The rules of a script are one block for its entry calls and one for each of its
definitions, in this order. A block is a rule and its helper rules; it stands
for its definition call by call and loop by loop, and its helper rules are
numbered on from those of all blocks in front of it.
-/
theorem ofScript_unrolls_definitions
    (script : Script) :
    ∃ blocks : List (Rule × List Rule),
      (ofScript script).rules =
        blocks.flatMap (fun block => block.1 :: block.2) ∧
        blocks.length = script.rules.length + 1 ∧
        ∀ (index : Nat) (definition : RuleDefinition)
          (block : Rule × List Rule),
          (⟨"entry", none, none, none, script.entry, 1⟩ ::
            script.rules)[index]? =
              some definition →
            blocks[index]? = some block →
              UnrollsDefinition
                (((script.entry :: script.rules.map RuleDefinition.body).take
                  index).flatten.map fun earlier =>
                    earlier.loops.length - 1).sum
                definition block.1 block.2 := by
  refine ⟨blocksFrom 0 (entryDefinition script :: script.rules), ?_, ?_, ?_⟩
  · exact unrollRules_eq_blocks 0 _
  · rw [length_blocksFrom, List.length_cons]
  · intro index definition block atDefinition atBlock
    have bodies :
        ((script.entry :: script.rules.map RuleDefinition.body).take
          index).flatten =
          ((entryDefinition script :: script.rules).take index).flatMap
            RuleDefinition.body := by
      rw [List.flatMap_def, List.map_take]
      rfl
    rw [blocksFrom_getElem?] at atBlock
    have sameDefinition :
        (entryDefinition script :: script.rules)[index]? = some definition :=
          atDefinition
    rw [sameDefinition] at atBlock
    cases atBlock
    rw [← bodyHelperCount_eq_sum, bodies, Nat.zero_add]
    exact unrollsDefinition_unrolledRule _ definition

end Eisen.RuleSet
