import Eisen.Proofs.RuleSet.Parameters
import Eisen.Proofs.Text.Order

namespace Eisen

/-!
# Single edits

Where one parameter or one call of one rule is replaced, a comparison has one
finding. It names the rule, counts its variant and tells the old text from the
new one, whatever rules of the same name or of other names stand around.
-/

/-! Lists that differ at one index. -/

/-- The list and the edited list around an index. -/
theorem eq_append_cons_of_getElem?
    {α : Type}
    {items : List α}
    {index : Nat}
    {item : α}
    (found : items[index]? = some item)
    (other : α) :
    items = items.take index ++ item :: items.drop (index + 1) ∧
      items.set index other =
        items.take index ++ other :: items.drop (index + 1) := by
  obtain ⟨inside, rfl⟩ := List.getElem?_eq_some_iff.mp found
  constructor
  · rw [List.getElem_cons_drop, List.take_append_drop]
  · rw [List.set_eq_take_append_cons_drop, if_pos inside]

/--
Where one member of a list without repetitions gives something, this
is all there is.
-/
theorem flatMap_eq_of_mem
    {α β : Type}
    {items : List α}
    {view : α → List β}
    {item : α}
    (distinct : items.Nodup)
    (member : item ∈ items)
    (others : ∀ other ∈ items, other ≠ item → view other = []) :
    items.flatMap view = view item := by
  obtain ⟨before, after, rfl⟩ := List.append_of_mem member
  obtain ⟨notAfter, notBefore⟩ : item ∉ after ∧ item ∉ before := by
    rw [List.nodup_middle, List.nodup_cons, List.mem_append, not_or] at distinct
    exact distinct.1.symm
  have beforeNone : before.flatMap view = [] :=
    List.flatMap_eq_nil_iff.mpr fun other inBefore =>
      others other (List.mem_append_left _ inBefore) fun same =>
        notBefore (same ▸ inBefore)
  have afterNone : after.flatMap view = [] :=
    List.flatMap_eq_nil_iff.mpr fun other inAfter =>
      others other (List.mem_append_right _ (List.mem_cons_of_mem _ inAfter))
        fun same => notAfter (same ▸ inAfter)
  rw [List.flatMap_append, List.flatMap_cons, beforeNone, afterNone,
    List.nil_append, List.append_nil]

namespace Rule

/--
One parameter or call of a rule is replaced by another one, and the finding
tells the two apart. An absent parameter differs from every present one and is
written as a dash.
-/
inductive Edit
    (rule : Rule)
    (variant : Nat) :
    Rule → Discrepancy → Prop
  | weight (value : Option Numeral) :
      rule.weight.map Numeral.canonical ≠ value.map Numeral.canonical →
      Edit rule variant { rule with weight := value }
        (.parameterMismatch rule.name variant .weight
          ((rule.weight.map Numeral.canonical).getD "-")
          ((value.map Numeral.canonical).getD "-"))
  | maxDepth (value : Option Numeral) :
      rule.maxDepth.map Numeral.canonical ≠ value.map Numeral.canonical →
      Edit rule variant { rule with maxDepth := value }
        (.parameterMismatch rule.name variant .maxDepth
          ((rule.maxDepth.map Numeral.canonical).getD "-")
          ((value.map Numeral.canonical).getD "-"))
  | successor (value : Option String) :
      rule.successor ≠ value →
      Edit rule variant { rule with successor := value }
        (.parameterMismatch rule.name variant .successor
          (rule.successor.getD "-") (value.getD "-"))
  | call {position : Nat} {call : Call} (value : Call) :
      rule.calls[position]? = some call →
      call.signature ≠ value.signature →
      Edit rule variant { rule with calls := rule.calls.set position value }
        (.callMismatch rule.name variant
          (position + 1) call.signature value.signature)

/-! One rule. -/

theorem parameterDifference_self
    (rule : String)
    (variant : Nat)
    (parameter : Parameter)
    (value : Option String) :
    parameterDifference rule variant parameter value value = [] :=
  (parameterDifference_eq_nil_iff ..).mpr rfl

theorem callDifferences_self
    (rule : String)
    (variant index : Nat)
    (calls : List Call) :
    callDifferences rule variant index calls calls = [] :=
  (callDifferences_eq_nil_iff rfl).mpr rfl

/--
Calls that both sides start with only move the numbers of the calls behind them.
-/
theorem callDifferences_append
    (rule : String)
    (variant index : Nat)
    (front scripts datas : List Call) :
    callDifferences rule variant index (front ++ scripts) (front ++ datas) =
      callDifferences rule variant (index + front.length) scripts datas := by
  induction front generalizing index with
  | nil => rfl
  | cons call rest inductionHypothesis =>
      rw [List.cons_append, List.cons_append, callDifferences, if_pos rfl,
        inductionHypothesis, List.length_cons]
      congr 1
      omega

/-- A call that is replaced by another one is the only difference. -/
theorem callDifferences_set
    (rule : String)
    (variant : Nat)
    {calls : List Call}
    {position : Nat}
    {call value : Call}
    (found : calls[position]? = some call)
    (differs : call.signature ≠ value.signature) :
    callDifferences rule variant 1 calls (calls.set position value) =
      [.callMismatch rule variant
        (position + 1) call.signature value.signature] := by
  obtain ⟨before, after⟩ := eq_append_cons_of_getElem? found value
  have count : (calls.take position).length = position :=
    List.length_take_of_le (List.getElem?_eq_some_iff.mp found).1.le
  -- the calls in front of the edited one stand on both sides
  rw [after]
  nth_rewrite 1 [before]
  rw [callDifferences_append, callDifferences, if_neg differs,
    callDifferences_self, count, Nat.add_comm]

theorem differences_self
    (variant : Nat)
    (rule : Rule) :
    rule.differences variant rule = [] :=
  (differences_eq_nil_iff ..).mpr rfl

/-- An edit keeps the name of its rule. -/
theorem Edit.name_eq
    {rule edited : Rule}
    {variant : Nat}
    {finding : Discrepancy}
    (edit : rule.Edit variant edited finding) :
    edited.name = rule.name := by
  cases edit <;> rfl

/-- An edit is the one difference between a rule and the edited rule. -/
theorem Edit.differences_eq
    {rule edited : Rule}
    {variant : Nat}
    {finding : Discrepancy}
    (edit : rule.Edit variant edited finding) :
    rule.differences variant edited = [finding] := by
  cases edit with
  | weight value differs =>
      simp only [differences, parameterDifference_self, callDifferences_self,
        List.append_nil]
      exact if_neg differs
  | maxDepth value differs =>
      simp only [differences, parameterDifference_self, callDifferences_self,
        List.append_nil, List.nil_append]
      exact if_neg differs
  | successor value differs =>
      simp only [differences, parameterDifference_self, callDifferences_self,
        List.append_nil, List.nil_append]
      exact if_neg differs
  | call value found differs =>
      simp only [differences, List.length_set, parameterDifference_self,
        List.nil_append]
      exact callDifferences_set rule.name variant found differs

/-! The variants of one name. -/

/--
Variants that both sides start with only move the numbers of the
variants behind them.
-/
theorem variantDifferences_append
    (variant : Nat)
    (front scripts datas : List Rule) :
    variantDifferences variant (front ++ scripts) (front ++ datas) =
      variantDifferences (variant + front.length) scripts datas := by
  induction front generalizing variant with
  | nil => rfl
  | cons rule rest inductionHypothesis =>
      rw [List.cons_append, List.cons_append, variantDifferences,
        differences_self, List.nil_append, inductionHypothesis,
        List.length_cons]
      congr 1
      omega

/-- Among variants, an edit is found at its own variant only. -/
theorem variantDifferences_of_edit
    {variant : Nat}
    {front : List Rule}
    {rule edited : Rule}
    {finding : Discrepancy}
    (edit : rule.Edit (variant + front.length) edited finding)
    (behind : List Rule) :
    variantDifferences variant (front ++ rule :: behind)
      (front ++ edited :: behind) =
      [finding] := by
  rw [variantDifferences_append, variantDifferences, edit.differences_eq,
    (variantDifferences_eq_nil_iff rfl).mpr rfl, List.append_nil]

end Rule

namespace RuleSet

theorem nodup_sortedNames (ruleSet : RuleSet) : ruleSet.sortedNames.Nodup :=
  (Text.sortBy_perm id _).nodup_iff.mpr (Text.nodup_eraseDups _)

/--
Rule sets with the same depth limit and names differ in the variants of
their names only.
-/
theorem differences_eq_flatMap
    {left right : RuleSet}
    (sameDepth : left.maxDepth = right.maxDepth)
    (sameNames : left.names = right.names) :
    left.differences right =
      left.sortedNames.flatMap (nameDifferences left right) := by
  have sameSorted : right.sortedNames = left.sortedNames := by
    rw [sortedNames, sortedNames, sameNames]
  have rightDefines : ∀ name ∈ left.sortedNames, right.defines name = true := by
    intro name member
    rwa [defines_iff, ← sameNames, ← mem_sortedNames_iff]
  have onlyLeft :
      (left.sortedNames.filter fun name => !right.defines name) = [] :=
    (filter_sortedNames_eq_nil_iff left right).mpr fun name member =>
      sameNames ▸ member
  have onlyRight :
      (right.sortedNames.filter fun name => !left.defines name) = [] :=
    (filter_sortedNames_eq_nil_iff right left).mpr fun name member =>
      sameNames ▸ member
  rw [differences, onlyLeft, onlyRight, List.filter_eq_self.mpr rightDefines]
  simp [Numeral.agrees, sameDepth]

/-- The rules of a name, with one rule of the set in view. -/
theorem variants_of_middle
    {ruleSet : RuleSet}
    {before behind : List Rule}
    {rule : Rule}
    (form : ruleSet.rules = before ++ rule :: behind)
    (name : String) :
    ruleSet.variants name =
      before.filter (fun earlier => earlier.name == name) ++
        if rule.name = name then
          rule :: behind.filter (fun later => later.name == name)
        else
          behind.filter fun later => later.name == name := by
  simp only [variants, form, List.filter_append, List.filter_cons, beq_iff_eq]

section

variable
    {left right : RuleSet}
    {before behind : List Rule}
    {rule edited : Rule}
    {finding : Discrepancy}
    (form : left.rules = before ++ rule :: behind)
    (editedForm : right.rules = before ++ edited :: behind)

include form editedForm

/-- An edit keeps the names of a rule set. -/
theorem names_eq_of_edited (sameName : edited.name = rule.name) :
    left.names = right.names := by
  simp only [names, form, editedForm, List.map_append, List.map_cons, sameName]

/-- The rules of the other names are the same on both sides. -/
theorem nameDifferences_of_ne
    (sameName : edited.name = rule.name)
    {name : String}
    (other : name ≠ rule.name) :
    nameDifferences left right name = [] := by
  rw [nameDifferences_eq_nil_iff, variants_of_middle form,
    variants_of_middle editedForm, sameName, if_neg other.symm,
    if_neg other.symm]

/-- Among the rules of its name the edited rule is the one that differs. -/
theorem nameDifferences_of_edit
    (edit :
      rule.Edit (1 + before.countP fun earlier => earlier.name == rule.name)
      edited finding) :
    nameDifferences left right rule.name = [finding] := by
  have scripts := variants_of_middle form rule.name
  have datas := variants_of_middle editedForm rule.name
  rw [if_pos rfl] at scripts
  rw [if_pos edit.name_eq] at datas
  -- the rules of the name in front of the edited one are as many as the variant
  -- counts
  rw [List.countP_eq_length_filter] at edit
  simp only [nameDifferences, scripts, datas, List.length_append,
    List.length_cons, if_true]
  exact Rule.variantDifferences_of_edit edit _

/-- An edited rule is the only difference between two rule sets. -/
theorem differences_of_edit
    (sameDepth : left.maxDepth = right.maxDepth)
    (edit :
      rule.Edit (1 + before.countP fun earlier => earlier.name == rule.name)
      edited finding) :
    left.differences right = [finding] := by
  have named : rule.name ∈ left.sortedNames := by
    rw [mem_sortedNames_iff, names, form]
    simp
  calc left.differences right
      = left.sortedNames.flatMap (nameDifferences left right) :=
        differences_eq_flatMap sameDepth
          (names_eq_of_edited form editedForm edit.name_eq)
    _ = nameDifferences left right rule.name :=
        flatMap_eq_of_mem left.nodup_sortedNames named fun _ _ other =>
          nameDifferences_of_ne form editedForm edit.name_eq other
    _ = [finding] := nameDifferences_of_edit form editedForm edit

end

/--
One parameter or call of one rule is replaced by another one. A comparison with
the edited rule set has one finding then: that of the edit, with the number of
the rule among the rules of its name.
-/
theorem differences_locate_single_edit
    {ruleSet : RuleSet}
    {index : Nat}
    {rule edited : Rule}
    {finding : Discrepancy}
    (found : ruleSet.rules[index]? = some rule)
    (edit : rule.Edit
      (1 + (ruleSet.rules.take index).countP fun earlier =>
        earlier.name == rule.name)
      edited finding) :
    ruleSet.differences
      { ruleSet with rules := ruleSet.rules.set index edited } = [finding] := by
  obtain ⟨form, editedForm⟩ := eq_append_cons_of_getElem? found edited
  exact differences_of_edit form editedForm rfl edit

/-- Two variants of one name with another rule between them. -/
def variedSample : RuleSet where
  maxDepth := defaultMaxDepth
  rules :=
    [⟨"A", none, none, none,
      [⟨.shape "box", "", none⟩, ⟨.rule "A", "tx 1", none⟩]⟩,
      ⟨"entry", none, none, none, [⟨.rule "A", "", some ⟨"3"⟩⟩]⟩,
      ⟨"A", some ⟨"1.0"⟩, none, none, [⟨.shape "box", "", none⟩]⟩]

/-- Edits of the second variant are found where they are. -/
theorem differences_locate_edits_of_variedSample :
    variedSample.differences
          { variedSample with
            rules := variedSample.rules.set 2
              ⟨"A", some ⟨"3"⟩, none, none, [⟨.shape "box", "", none⟩]⟩ } =
        [.parameterMismatch "A" 2 .weight "1" "3"] ∧
      variedSample.differences
          { variedSample with
            rules := variedSample.rules.set 0
              ⟨"A", none, none, none,
                  [⟨.shape "box", "", none⟩, ⟨.rule "A", "tx 2", none⟩]⟩ } =
        [.callMismatch "A" 1 2 "rule A \x7btx 1\x7d"
          "rule A \x7btx 2\x7d"] := by
  constructor
  · exact differences_locate_single_edit rfl (.weight (some ⟨"3"⟩) (by decide))
  · have oldText :
        Call.signature ⟨.rule "A", "tx 1", none⟩ = "rule A \x7btx 1\x7d" := by
      decide
    have newText :
        Call.signature ⟨.rule "A", "tx 2", none⟩ = "rule A \x7btx 2\x7d" := by
      decide
    rw [← oldText, ← newText]
    refine differences_locate_single_edit rfl (@Rule.Edit.call _ _ 1 _ _ rfl ?_)
    rw [oldText, newText]
    decide

end RuleSet

end Eisen
