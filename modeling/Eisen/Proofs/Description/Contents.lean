import Eisen.Proofs.Description.Acceptance

namespace Eisen

/-!
# What descriptions hold that are read

A description that is read has passed the schema, whatever its text looks like.
So its rules have names, and its calls have names and shapes as targets.
-/

/-! Decoding. -/

namespace Decoding

variable {α β : Type}

/-- Where two parts are read one behind the other, both are read. -/
theorem exists_of_bind_eq_ok
    {first : Except Fault α}
    {next : α → Except Fault β}
    {result : β}
    (decoded : first >>= next = .ok result) :
    ∃ value, first = .ok value ∧ next value = .ok result := by
  cases first with
  | error fault => cases decoded
  | ok value => exact ⟨value, rfl, decoded⟩

/-- A view of something that is read comes from what is read. -/
theorem exists_of_map_eq_ok
    {decoded : Except Fault α}
    {view : α → β}
    {result : β}
    (mapped : decoded.map view = .ok result) :
    ∃ value, decoded = .ok value ∧ view value = result := by
  cases decoded with
  | error fault => cases mapped
  | ok value =>
      cases mapped
      exact ⟨value, rfl, rfl⟩

theorem eq_text_of_text_eq_ok
    {json : Json}
    {content : String}
    (decoded : text json = .ok content) :
    json = .text content := by
  cases json <;> cases decoded
  rfl

theorem field_of_optional_eq_ok
    {field : Json → Except Fault α}
    {json : Json}
    {value : α}
    (decoded : optional field json = .ok (some value)) :
    field json = .ok value := by
  have inside : (field json).map some = .ok (some value) := by
    cases json with
    | null => cases decoded
    | _ => exact decoded
  obtain ⟨_, isField, ⟨⟩⟩ := exists_of_map_eq_ok inside
  exact isField

/-- Every item of a list that is read comes from an item of the value. -/
theorem exists_items_of_list_eq_ok
    {item : Json → Except Fault α}
    {json : Json}
    {values : List α}
    (decoded : list item json = .ok values) :
    ∃ items, json = .array items ∧ ∀ value ∈ values, ∃ json ∈ items,
      item json = .ok value := by
  cases json with
  | array items =>
      refine ⟨items, rfl, ?_⟩
      rw [list] at decoded
      induction items generalizing values with
      | nil =>
          cases decoded
          exact List.forall_mem_nil _
      | cons first rest inductionHypothesis =>
          rw [List.mapM_cons] at decoded
          obtain ⟨head, isHead, decoded⟩ := exists_of_bind_eq_ok decoded
          obtain ⟨tail, isTail, decoded⟩ := exists_of_bind_eq_ok decoded
          cases decoded
          rw [List.forall_mem_cons]
          refine ⟨⟨first, List.mem_cons_self, isHead⟩, fun value member => ?_⟩
          obtain ⟨json, inRest, isValue⟩ :=
            inductionHypothesis isTail value member
          exact ⟨json, List.mem_cons_of_mem _ inRest, isValue⟩
  | _ => cases decoded

theorem mem_of_member?_eq_some
    {name : String}
    {members : List (String × Json)}
    {json : Json}
    (found : Json.member? name members = some json) :
    (name, json) ∈ members := by
  rw [Json.member?, List.lookup_eq_some_iff] at found
  obtain ⟨front, behind, rfl, -⟩ := found
  simp

/--
A member that may be missing is the default or comes from a member of the
object.
-/
theorem memberOr_eq_ok
    {default value : α}
    {field : Json → Except Fault α}
    {name : String}
    {members : List (String × Json)}
    (decoded : memberOr default field name members = .ok value) :
    value = default ∨ ∃ json,
      (name, json) ∈ members ∧ field json = .ok value := by
  rw [memberOr] at decoded
  cases found : Json.member? name members with
  | none =>
      rw [found] at decoded
      cases decoded
      exact .inl rfl
  | some json =>
      rw [found] at decoded
      exact .inr ⟨json, mem_of_member?_eq_some found, decoded⟩

end Decoding

open Decoding Description Script

/-! What the schema accepts is decoded as something that conforms. -/

section

variable
    {document : Schema.Document}
    {budget : Nat}

/-- The schema of a member that a closed object accepts. -/
theorem Schema.Document.AcceptsWithin.of_member
    {known : List (String × Schema)}
    {others : List Keyword}
    {members : List (String × Json)}
    (accepted : document.AcceptsWithin (budget + 1)
      (.keywords (.closedProperties known :: others)) (.object members))
    {name : String}
    {json : Json}
    (member : (name, json) ∈ members)
    {schema : Schema}
    (isKnown : known.lookup name = some schema) :
    document.AcceptsWithin budget schema json := by
  obtain ⟨found, isFound, holds⟩ :=
    accepted (.closedProperties known) List.mem_cons_self members rfl
      (name, json) member
  cases isKnown.symm.trans isFound
  exact holds

/-- A text that the schema accepts as a rule name is one. -/
theorem isName_of_accepts
    {json : Json}
    {name : String}
    (accepted : descriptionDocument.AcceptsWithin (budget + 2)
      (definition "rule_name") json)
    (decoded : text json = .ok name) :
    IsName name := by
  rw [eq_text_of_text_eq_ok decoded] at accepted
  exact (accepts_name_iff budget name).mp accepted

/-- The target of an accepted call has the form of a shape or of a rule name. -/
theorem Target.conforms_of_ofMembers
    {members : List (String × Json)}
    (accepted : descriptionDocument.AcceptsWithin (budget + 4) callSchema
      (.object members))
    {target : Target}
    (decoded : ofMembers members = .ok target) :
    target.Conforms := by
  rw [ofMembers] at decoded
  cases isRule : Json.member? "rule" members with
  | some json =>
      rw [isRule] at decoded
      obtain ⟨name, isName, rfl⟩ := exists_of_map_eq_ok decoded
      exact isName_of_accepts
        (accepted.of_member (mem_of_member?_eq_some isRule) rfl) isName
  | none =>
      rw [isRule] at decoded
      cases isShape : Json.member? "shape" members with
      | none => simp [isShape] at decoded
      | some json =>
          simp only [isShape] at decoded
          obtain ⟨shape, isText, rfl⟩ := exists_of_map_eq_ok decoded
          have holds := accepted.of_member (mem_of_member?_eq_some isShape) rfl
          rw [eq_text_of_text_eq_ok isText] at holds
          exact (accepts_shape_iff _ shape).mp holds

/-- An accepted call has a target of the right form. -/
theorem Call.conforms_of_ofJson
    {json : Json}
    (accepted : descriptionDocument.AcceptsWithin (budget + 4) callSchema json)
    {call : Call}
    (decoded : ofJson json = .ok call) :
    call.target.Conforms := by
  cases json with
  | object members =>
      obtain ⟨count, -, decoded⟩ := exists_of_bind_eq_ok decoded
      obtain ⟨transforms, -, decoded⟩ := exists_of_bind_eq_ok decoded
      obtain ⟨target, isTarget, decoded⟩ := exists_of_bind_eq_ok decoded
      cases decoded
      exact Target.conforms_of_ofMembers accepted isTarget
  | _ => cases decoded

/-- An accepted rule has names and targets of the right form. -/
theorem Rule.conforms_of_ofJson
    {json : Json}
    (accepted : descriptionDocument.AcceptsWithin (budget + 7) ruleSchema json)
    {container : Container}
    {rule : Rule}
    (decoded : ofJson container json = .ok rule) :
    rule.Conforms := by
  have isObject : (Keyword.type [.object]).Accepts
      (descriptionDocument.AcceptsWithin (budget + 6)) json :=
    accepted _ (by simp)
  cases json with
  | object members =>
      obtain ⟨calls, areCalls, decoded⟩ := exists_of_bind_eq_ok decoded
      obtain ⟨maxDepth, -, decoded⟩ := exists_of_bind_eq_ok decoded
      obtain ⟨name, isName, decoded⟩ := exists_of_bind_eq_ok decoded
      obtain ⟨successor, isSuccessor, decoded⟩ := exists_of_bind_eq_ok decoded
      obtain ⟨weight, -, decoded⟩ := exists_of_bind_eq_ok decoded
      cases name with
      | none => cases decoded
      | some name =>
          cases decoded
          refine ⟨?_, fun found isFound => ?_, fun call inCalls => ?_⟩
          · rcases memberOr_eq_ok isName with ⟨⟨⟩⟩ | ⟨json, member, isText⟩
            obtain ⟨_, isText, ⟨⟩⟩ := exists_of_map_eq_ok isText
            exact isName_of_accepts (accepted.of_member member rfl) isText
          · rcases memberOr_eq_ok isSuccessor with rfl | ⟨json, member, isText⟩
            · cases isFound
            · cases isFound
              exact isName_of_accepts (accepted.of_member member rfl)
                (field_of_optional_eq_ok isText)
          · rcases memberOr_eq_ok areCalls with rfl | ⟨json, member, isList⟩
            · cases inCalls
            · obtain ⟨items, rfl, decodes⟩ := exists_items_of_list_eq_ok isList
              obtain ⟨item, inItems, isCall⟩ := decodes call inCalls
              have listed := accepted.of_member member rfl
              have isAccepted :=
                listed _ List.mem_cons_self items rfl item inItems
              exact Call.conforms_of_ofJson
                ((accepts_definition_iff rfl _ item).mp isAccepted)
                isCall
  | _ => simp [Keyword.Accepts, Schema.Kind.admits] at isObject

/-- The rules of an accepted rule set have the right form. -/
theorem RuleSet.conforms_of_ofMembers
    {members : List (String × Json)}
    (accepted :
      descriptionDocument.AcceptsWithin (budget + 10) descriptionSchema
        (.object members))
    {container : Container}
    {ruleSet : RuleSet}
    (decoded : ofMembers container members = .ok ruleSet) :
    ∀ rule ∈ ruleSet.rules, rule.Conforms := by
  obtain ⟨maxDepth, -, decoded⟩ := exists_of_bind_eq_ok decoded
  cases found : Json.member? "rules" members with
  | none => simp [found] at decoded
  | some json =>
      simp only [found] at decoded
      obtain ⟨rules, isList, decoded⟩ := exists_of_bind_eq_ok decoded
      cases decoded
      intro rule inRules
      obtain ⟨items, rfl, decodes⟩ := exists_items_of_list_eq_ok isList
      obtain ⟨item, inItems, isRule⟩ := decodes rule inRules
      have listed := accepted.of_member (mem_of_member?_eq_some found) rfl
      have isAccepted := listed _ List.mem_cons_self items rfl item inItems
      exact Rule.conforms_of_ofJson
        ((accepts_definition_iff rfl _ item).mp isAccepted) isRule

/-- The rules of an accepted description have the right form. -/
theorem Description.conforms_of_ofJson
    {json : Json}
    (accepted :
      descriptionDocument.AcceptsWithin (budget + 10) descriptionSchema json)
    {description : Description}
    (decoded : ofJson json = .ok description) :
    ∀ rule ∈ description.ruleSet.rules, rule.Conforms := by
  cases json with
  | object members =>
      obtain ⟨source, -, decoded⟩ := exists_of_bind_eq_ok decoded
      obtain ⟨title, -, decoded⟩ := exists_of_bind_eq_ok decoded
      obtain ⟨ruleSet, isRuleSet, decoded⟩ := exists_of_bind_eq_ok decoded
      cases decoded
      exact RuleSet.conforms_of_ofMembers accepted isRuleSet
  | _ => cases decoded

end

/-- All rules of a description conform that is read with the embedded schema. -/
theorem Description.conforms_of_read
    {content : String}
    {description : Description}
    (isRead : read .embedded content = .ok description) :
    ∀ rule ∈ description.ruleSet.rules, rule.Conforms := by
  rw [read] at isRead
  cases isJson : Json.read content with
  | error fault => simp [isJson] at isRead
  | ok json =>
      simp only [isJson] at isRead
      obtain ⟨budget, accepts⟩ := exists_messages_embedded_eq_nil_iff json
      cases found : LabelledSchema.embedded.messages json with
      | cons message more => simp [found] at isRead
      | nil =>
          simp only [found] at isRead
          cases decoded : ofJson json with
          | error fault => simp [decoded, Except.mapError] at isRead
          | ok other =>
              simp only [decoded, Except.mapError, Except.ok.injEq] at isRead
              cases isRead
              have accepted := accepts.mp found
              exact conforms_of_ofJson accepted decoded

end Eisen
