import Eisen.Schema.Basic
import Mathlib.Data.List.Basic

namespace Eisen

/-!
# What schemas accept

A schema that finds nothing wrong with a value accepts it. This module says what
each keyword accepts, without the places and the wordings of violations, and
shows that a check comes out empty exactly where all keywords accept.
-/

/--
What a keyword accepts, where `Holds` says what the schemas inside it accept. A
keyword accepts the values it does not apply to.
-/
def Keyword.Accepts
    (Holds : Schema → Json → Prop)
    (value : Json) :
    Keyword → Prop
  | .type kinds => ∃ kind ∈ kinds, kind.admits value = true
  | .required names =>
      ∀ members, value = .object members →
        ∀ name ∈ names, (Json.member? name members).isSome = true
  | .properties known =>
      ∀ members, value = .object members →
        ∀ member ∈ members, ∀ schema,
          known.lookup member.1 = some schema → Holds schema member.2
  | .closedProperties known =>
      ∀ members, value = .object members →
        ∀ member ∈ members, ∃ schema,
          known.lookup member.1 = some schema ∧ Holds schema member.2
  | .noProperties => ∀ members, value = .object members → members = []
  | .openProperties known others =>
      ∀ members, value = .object members →
        ∀ member ∈ members, Holds ((known.lookup member.1).getD others) member.2
  | .items schema =>
      ∀ items, value = .array items → ∀ item ∈ items, Holds schema item
  | .minItems count => ∀ items, value = .array items → count ≤ items.length
  | .uniqueItems =>
      ∀ items, value = .array items → (items.map Json.compact).Nodup
  | .pattern text =>
      ∀ content, value = .text content → text.pattern.search content = .ok true
  | .minimum least => Schema.isBelow least value = false
  | .enumeration values => ∃ content ∈ values, value = .text content
  | .format form =>
      ∀ content, value = .text content → form.admits content = true
  | .allOf schemas => ∀ schema ∈ schemas, Holds schema value
  | .anyOf schemas => ∃ schema ∈ schemas, Holds schema value
  | .oneOf schemas =>
      ∃ front schema behind,
        schemas = front ++ schema :: behind ∧ Holds schema value ∧
        ∀ other ∈ front ++ behind, ¬ Holds other value

namespace Schema

theorem allDistinct_eq_true_iff (texts : List String) :
    allDistinct texts = true ↔ texts.Nodup := by
  induction texts with
  | nil => simp [allDistinct]
  | cons text rest inductionHypothesis =>
      simp [allDistinct, inductionHypothesis]

/-- Nothing is wrong with a list exactly where nothing is wrong with an item. -/
theorem itemViolations_eq_nil_iff
    {check : Checker}
    {Holds : Schema → Json → Prop}
    (checks : ∀ schema location value, check schema location value = [] ↔
      Holds schema value)
    (schema : Schema)
    (location : List String)
    (index : Nat)
    (items : List Json) :
    itemViolations check schema location index items = [] ↔
      ∀ item ∈ items, Holds schema item := by
  induction items generalizing index with
  | nil => simp [itemViolations]
  | cons item rest inductionHypothesis =>
      rw [itemViolations, List.append_eq_nil_iff, checks, inductionHypothesis,
        List.forall_mem_cons]

/--
Nothing is wrong with a member exactly where its schema accepts it, if it has
one.
-/
theorem memberViolations_eq_nil_iff
    {check : Checker}
    {Holds : Schema → Json → Prop}
    (checks : ∀ schema location value, check schema location value = [] ↔
      Holds schema value)
    (known : Option Schema)
    (location : List String)
    (member : String × Json) :
    memberViolations check known location member = [] ↔
      ∀ schema, known = some schema → Holds schema member.2 := by
  cases known with
  | none => simp [memberViolations]
  | some schema => simp [memberViolations, checks]

end Schema

/-- Exactly one of some items has a property. -/
theorem countP_eq_one_iff
    {α : Type}
    (property : α → Bool)
    (items : List α) :
    items.countP property = 1 ↔
      ∃ front item behind,
        items = front ++ item :: behind ∧ property item = true ∧
        ∀ other ∈ front ++ behind, property other = false := by
  constructor
  · intro once
    obtain ⟨item, member, holds⟩ := List.countP_pos_iff.mp (once ▸ Nat.one_pos)
    obtain ⟨front, behind, rfl⟩ := List.append_of_mem member
    refine ⟨front, item, behind, rfl, holds, ?_⟩
    rw [List.countP_append, List.countP_cons_of_pos holds] at once
    have nowhere : (front ++ behind).countP property = 0 := by
      rw [List.countP_append]
      omega
    simpa using List.countP_eq_zero.mp nowhere
  · rintro ⟨front, item, behind, rfl, holds, nowhere⟩
    have none : (front ++ behind).countP property = 0 :=
      List.countP_eq_zero.mpr (by simpa using nowhere)
    rw [List.countP_append] at none
    rw [List.countP_append, List.countP_cons_of_pos holds]
    omega

/-- One of two schemas accepts a value, and the other does not. -/
theorem Keyword.accepts_oneOf_pair_iff
    (Holds : Schema → Json → Prop)
    (value : Json)
    (left right : Schema) :
    (Keyword.oneOf [left, right]).Accepts Holds value ↔
      Holds left value ∧ ¬ Holds right value ∨
        Holds right value ∧ ¬ Holds left value := by
  constructor
  · rintro ⟨front, schema, behind, form, holds, others⟩
    rcases front with _ | ⟨first, _ | ⟨second, front⟩⟩
    · cases form
      exact .inl ⟨holds, others right (by simp)⟩
    · cases form
      exact .inr ⟨holds, others left (by simp)⟩
    · simp at form
  · rintro (⟨holds, other⟩ | ⟨holds, other⟩)
    · exact ⟨[], left, [right], rfl, holds, by simpa using other⟩
    · exact ⟨[left], right, [], rfl, holds, by simpa using other⟩

/-- A keyword finds nothing wrong with exactly the values that it accepts. -/
theorem Keyword.violations_eq_nil_iff
    {check : Schema.Checker}
    {Holds : Schema → Json → Prop}
    (checks : ∀ schema location value, check schema location value = [] ↔
      Holds schema value)
    (location : List String)
    (value : Json)
    (keyword : Keyword) :
    keyword.violations check location value = [] ↔
      keyword.Accepts Holds value := by
  cases keyword with
  | type kinds => simp [violations, Accepts]
  | required names =>
      cases value <;> simp [violations, Accepts, Option.isSome_iff_ne_none]
  | properties known =>
      cases value <;>
        simp [violations, Accepts, Schema.memberViolations_eq_nil_iff checks]
  | closedProperties known =>
      cases value with
      | object members =>
          simp only [violations, Accepts, Json.object.injEq, forall_eq',
            List.append_eq_nil_iff, List.flatMap_eq_nil_iff,
            Schema.memberViolations_eq_nil_iff checks, ite_eq_left_iff,
            reduceCtorEq, imp_false, not_not, List.isEmpty_iff,
            List.filter_eq_nil_iff, List.forall_mem_map,
            Option.isNone_iff_eq_none]
          rw [← forall₂_and]
          refine forall₂_congr fun member _ => ?_
          cases known.lookup member.1 <;> simp
      | _ => simp [violations, Accepts]
  | noProperties =>
      cases value with
      | object members => cases members <;> simp [violations, Accepts]
      | _ => simp [violations, Accepts]
  | openProperties known others =>
      cases value <;>
        simp [violations, Accepts, Schema.memberViolations_eq_nil_iff checks]
  | items schema =>
      cases value <;>
        simp [violations, Accepts, Schema.itemViolations_eq_nil_iff checks]
  | minItems count => cases value <;> simp [violations, Accepts]
  | uniqueItems =>
      cases value <;> simp [violations, Accepts, Schema.allDistinct_eq_true_iff]
  | pattern text =>
      cases value with
      | text content =>
          simp only [violations, Accepts, Json.text.injEq, forall_eq']
          split <;> simp_all
      | _ => simp [violations, Accepts]
  | minimum least => simp [violations, Accepts]
  | enumeration values => cases value <;> simp [violations, Accepts]
  | format form => cases value <;> simp [violations, Accepts]
  | allOf schemas => simp [violations, Accepts, checks]
  | anyOf schemas => simp [violations, Accepts, checks]
  | oneOf schemas =>
      have decides (schema : Schema) :
          (check schema location value).isEmpty = true ↔
            Holds schema value := by
        rw [List.isEmpty_iff, checks]
      have accepts : (schemas.countP fun schema =>
          (check schema location value).isEmpty) = 1 ↔
          (Keyword.oneOf schemas).Accepts Holds value := by
        simp only [countP_eq_one_iff, Accepts, ← Bool.not_eq_true, decides]
      rw [← accepts, violations]
      generalize schemas.countP _ = count
      rcases count with _ | _ | count
      · simp
      · simp
      · simp

namespace Schema.Document

/-- What a schema of a document accepts with at most `budget` nested schemas. -/
def AcceptsWithin
    (document : Document) :
    Nat → Schema → Json → Prop
  | 0, _, _ => True
  | budget + 1, schema, value =>
      match schema with
      | .always => True
      | .never => False
      | .reference name =>
          ∃ target, document.target name = .ok target ∧
            document.AcceptsWithin budget target value
      | .keywords list =>
          ∀ keyword ∈ list,
            keyword.Accepts (document.AcceptsWithin budget) value

theorem acceptsWithin_keywords
    (document : Document)
    (budget : Nat)
    (list : List Keyword)
    (value : Json) :
    document.AcceptsWithin (budget + 1) (.keywords list) value ↔
      ∀ keyword ∈ list, keyword.Accepts (document.AcceptsWithin budget) value :=
  Iff.rfl

/-- A check finds nothing wrong with exactly the values that are accepted. -/
theorem violationsWithin_eq_nil_iff
    (document : Document)
    (budget : Nat)
    (schema : Schema)
    (location : List String)
    (value : Json) :
    document.violationsWithin budget schema location value = [] ↔
      document.AcceptsWithin budget schema value := by
  induction budget generalizing schema location value with
  | zero => simp [violationsWithin, AcceptsWithin]
  | succ budget inductionHypothesis =>
      cases schema with
      | always => simp [violationsWithin, AcceptsWithin]
      | never => simp [violationsWithin, AcceptsWithin]
      | reference name =>
          cases found : document.target name with
          | error violation => simp [violationsWithin, AcceptsWithin, found]
          | ok target =>
              simp [violationsWithin, AcceptsWithin, found, inductionHypothesis]
      | keywords list =>
          simp only [violationsWithin, AcceptsWithin, List.flatMap_eq_nil_iff]
          simp only [Keyword.violations_eq_nil_iff inductionHypothesis]

end Schema.Document

end Eisen
