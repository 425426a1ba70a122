import Eisen.Proofs.Description.Contents
import Eisen.Proofs.Text.Words

namespace Eisen

/-!
# Where the schema and the reader of descriptions differ

The schema and the reader are two accounts of one format. They agree on
every value but for its numerals: patterns know fewer blanks than texts do,
so a numeral that is made of blanks may pass the schema, and the reader
refuses it then.
-/

/-! Blanks that patterns do not know. -/

namespace Text

/--
Inclusive code point ranges of the blanks that patterns do not count as such.
-/
def strayRanges : List (Nat × Nat) :=
  [(0x85, 0x85), (0x1680, 0x1680), (0x2000, 0x2002), (0x2004, 0x200A),
    (0x2028, 0x2028),
    (0x202F, 0x202F), (0x205F, 0x205F), (0x3000, 0x3000)]

/-- A text of blanks, one of which patterns do not count as such. -/
structure IsStray (text : String) : Prop where
  blank : ∀ character ∈ text.toList, isBlank character = true
  stray : ∃ character ∈ text.toList, inRanges strayRanges character.toNat = true

theorem inRanges_strayRanges_iff (character : Char) :
    inRanges strayRanges character.toNat = true ↔
      isBlank character = true ∧
        Description.nonSpace.holds character = true := by
  simp only [inRanges, strayRanges, isBlank, blankRanges, CharacterSet.holds,
    Description.nonSpace, greatestCode, List.any_cons, List.any_nil,
    Bool.or_eq_true, Bool.and_eq_true, decide_eq_true_eq,
    Bool.false_eq_true, or_false]
  have bound := character.valid
  constructor
  · intro inside
    omega
  · intro inside
    omega

end Text

/-! Values that are read unless a numeral among them is blank. -/

namespace Decoding

variable {α β : Type}

/--
A value is read, or one of the numerals in it is stray and is
named in the refusal.
-/
inductive ReadsUnlessStray (numerals : List Json) : Except Fault α → Prop
  | read {value : α}
      (inked : ∀ text, .text text ∈ numerals → ¬ Text.IsStray text) :
      ReadsUnlessStray numerals (.ok value)
  | refused {text : String}
      (member : .text text ∈ numerals)
      (stray : Text.IsStray text) :
      ReadsUnlessStray numerals (.error (.blankNumeral text))

namespace ReadsUnlessStray

theorem ok (value : α) : ReadsUnlessStray [] (.ok value) :=
  .read (by simp)

/--
Two parts are read one behind the other unless one of them holds a stray
numeral.
-/
theorem bind
    {numerals others : List Json}
    {first : Except Fault α}
    {next : α → Except Fault β}
    (isFirst : ReadsUnlessStray numerals first)
    (isNext : ∀ value, ReadsUnlessStray others (next value)) :
    ReadsUnlessStray (numerals ++ others) (first >>= next) := by
  cases isFirst with
  | refused member stray =>
      exact .refused (List.mem_append_left others member) stray
  | @read value inked =>
      have second := isNext value
      have continues : (Except.ok value >>= next) = next value := rfl
      rw [continues]
      generalize next value = result at second
      cases second with
      | refused member stray =>
          exact .refused (List.mem_append_right numerals member) stray
      | read moreInked =>
          refine .read fun text member => ?_
          rcases List.mem_append.mp member with inFirst | inNext
          · exact inked text inFirst
          · exact moreInked text inNext

theorem map
    {numerals : List Json}
    {decoded : Except Fault α}
    (isRead : ReadsUnlessStray numerals decoded)
    (view : α → β) :
    ReadsUnlessStray numerals (decoded.map view) := by
  cases isRead with
  | refused member stray => exact .refused member stray
  | read inked => exact .read inked

/-- A list is read unless one of its items holds a stray numeral. -/
theorem mapM
    {numerals : Json → List Json}
    {decode : Json → Except Fault α}
    {items : List Json}
    (isItem : ∀ item ∈ items, ReadsUnlessStray (numerals item) (decode item)) :
    ReadsUnlessStray (items.flatMap numerals) (items.mapM decode) := by
  induction items with
  | nil => exact .ok []
  | cons item rest inductionHypothesis =>
      obtain ⟨isFirst, areOthers⟩ := List.forall_mem_cons.mp isItem
      rw [List.flatMap_cons, List.mapM_cons]
      refine isFirst.bind fun first => ?_
      rw [← List.append_nil (rest.flatMap numerals)]
      exact (inductionHypothesis areOthers).bind fun others =>
        .ok (first :: others)

/-- The reading is decided by whether there is a stray numeral. -/
theorem exists_ok_iff
    {numerals : List Json}
    {decoded : Except Fault α}
    (isRead : ReadsUnlessStray numerals decoded) :
    (∃ value, decoded = .ok value) ↔
      ∀ text, .text text ∈ numerals → ¬ Text.IsStray text := by
  cases isRead with
  | @read value inked => exact iff_of_true ⟨value, rfl⟩ inked
  | refused member stray =>
      exact iff_of_false (by simp) fun inked => inked _ member stray

end ReadsUnlessStray

end Decoding

/-! Where numerals stand in a description. -/

namespace Description

/-- The value of a member, if there is one. -/
def memberValues (name : String) : Json → List Json
  | .object members => (Json.member? name members).toList
  | _ => []

/-- The items of a list. -/
def listItems : Json → List Json
  | .array items => items
  | _ => []

/-- The values that are read as numerals of a call. -/
def callNumerals (call : Json) : List Json :=
  memberValues "count" call

/-- The values that are read as numerals of a rule and its calls. -/
def ruleNumerals (rule : Json) : List Json :=
  (memberValues "calls" rule).flatMap
    (fun calls => (listItems calls).flatMap callNumerals) ++
    memberValues "max_depth" rule ++ memberValues "weight" rule

/-- The values that are read as numerals of a description. -/
def numeralValues (description : Json) : List Json :=
  memberValues "max_depth" description ++
    (memberValues "rules" description).flatMap fun rules =>
      (listItems rules).flatMap ruleNumerals

end Description

open Decoding Description

/-! What the schema accepts. -/

section

variable
    {document : Schema.Document}
    {budget : Nat}
    {members : List (String × Json)}

/-- A member that may be missing is read unless its own numerals are stray. -/
theorem Decoding.ReadsUnlessStray.memberOr
    {α : Type}
    {default : α}
    {field : Json → Except Fault α}
    {name : String}
    {numerals : Json → List Json}
    (isField : ∀ json,
      (name, json) ∈ members → ReadsUnlessStray (numerals json) (field json)) :
    ReadsUnlessStray ((memberValues name (.object members)).flatMap numerals)
      (Decoding.memberOr default field name members) := by
  rw [Decoding.memberOr, memberValues]
  cases found : Json.member? name members with
  | none => exact .ok default
  | some json => simpa using isField json (mem_of_member?_eq_some found)

/--
A text in which the pattern of ink is found has a character that is no
blank of patterns.
-/
theorem Description.exists_nonSpace_of_search
    {text : String}
    (found : inkPattern.pattern.search text = .ok true) :
    ∃ character ∈ text.toList, nonSpace.holds character = true := by
  have moves (before after : Option Char) :
      (Pattern.Regular.one nonSpace).moves ⟨before, after⟩ =
        [(nonSpace, Pattern.Regular.empty)].map fun next =>
          ⟨[], some next⟩ := rfl
  simp only [inkPattern, Pattern.search, Except.ok.injEq,
    Pattern.Regular.occursIn_eq_true_iff]
    at found
  generalize none = before at found
  generalize text.toList = characters at found ⊢
  induction characters generalizing before with
  | nil =>
      obtain ⟨_, _, ⟨⟩, _⟩ :=
        (Pattern.Regular.completes_iff_exists_cons (moves before) []).mp found
  | cons first rest inductionHypothesis =>
      rcases found with here | later
      · obtain ⟨_, _, ⟨⟩, next, isNext, holds, -⟩ :=
          (Pattern.Regular.completes_iff_exists_cons (moves before)
            (first :: rest)).mp here
        rw [List.mem_singleton.mp isNext] at holds
        exact ⟨first, List.mem_cons_self, holds⟩
      · obtain ⟨character, member, holds⟩ := inductionHypothesis _ later
        exact ⟨character, List.mem_cons_of_mem first member, holds⟩

/--
A numeral that the schema accepts is stray where the reader takes it for blank.
-/
theorem Numeral.readsUnlessStray
    {json : Json}
    (accepted : descriptionDocument.AcceptsWithin (budget + 3)
      (definition "numeric") json) :
    ReadsUnlessStray [json] (Numeral.ofJson json) := by
  rw [@accepts_definition_iff "numeric" numeralSchema rfl] at accepted
  simp only [numeralSchema, Schema.Document.acceptsWithin_keywords,
    List.forall_mem_singleton, Keyword.accepts_oneOf_pair_iff] at accepted
  cases json with
  | integer value => exact .read (by simp)
  | real value => exact .read (by simp)
  | text content =>
      have inked : inkPattern.pattern.search content = .ok true := by
        simpa [Keyword.Accepts, Schema.Kind.admits] using accepted
      rw [Numeral.ofJson]
      by_cases isBlank : (Text.trim content).isEmpty = true
      · rw [if_pos isBlank]
        have blank := (Text.trim_isEmpty_iff content).mp isBlank
        obtain ⟨character, member, holds⟩ := exists_nonSpace_of_search inked
        have stray := (Text.inRanges_strayRanges_iff character).mpr
          ⟨blank character member, holds⟩
        exact .refused List.mem_cons_self ⟨blank, character, member, stray⟩
      · rw [if_neg isBlank]
        refine .read fun text member stray => isBlank ?_
        cases List.mem_singleton.mp member
        exact (Text.trim_isEmpty_iff content).mpr stray.blank
  | _ => simp [Keyword.Accepts, Schema.Kind.admits] at accepted

/-- An accepted value has the type that its schema asks for. -/
theorem Schema.Document.AcceptsWithin.admits
    {keywords : List Keyword}
    {json : Json}
    (accepted : document.AcceptsWithin (budget + 1) (.keywords keywords) json)
    {kind : Schema.Kind}
    (isKind : Keyword.type [kind] ∈ keywords) :
    kind.admits json = true := by
  obtain ⟨found, isFound, admits⟩ := accepted _ isKind
  rwa [← List.mem_singleton.mp isFound]

/-- What is a text for the schema is read as one. -/
theorem Decoding.text_readsUnlessStray
    {keywords : List Keyword}
    {json : Json}
    (accepted : document.AcceptsWithin (budget + 1) (.keywords keywords) json)
    (isText : Keyword.type [.string] ∈ keywords) :
    ReadsUnlessStray [] (Decoding.text json) := by
  have admits := accepted.admits isText
  cases json with
  | text content => exact .ok content
  | _ => cases admits

/-- What is a rule name for the schema is read as a text. -/
theorem Decoding.name_readsUnlessStray
    {json : Json}
    (accepted : descriptionDocument.AcceptsWithin (budget + 2)
      (definition "rule_name") json) :
    ReadsUnlessStray [] (Decoding.text json) :=
  text_readsUnlessStray
    ((accepts_definition_iff rfl _ json).mp accepted) (by simp)

/-- An optional value that is not null is read as its field is. -/
theorem Decoding.ReadsUnlessStray.optional
    {α : Type}
    {numerals : List Json}
    {field : Json → Except Fault α}
    {json : Json}
    (isField : ReadsUnlessStray numerals (field json))
    (isValue : json ≠ .null) :
    ReadsUnlessStray numerals (Decoding.optional field json) := by
  cases json with
  | null => exact absurd rfl isValue
  | _ => exact isField.map some

/-- An accepted text is always read. -/
theorem Decoding.optionalText_readsUnlessStray
    {keywords : List Keyword}
    {json : Json}
    (accepted : document.AcceptsWithin (budget + 1) (.keywords keywords) json)
    (isText : Keyword.type [.string] ∈ keywords) :
    ReadsUnlessStray [] (Decoding.optional Decoding.text json) := by
  refine (text_readsUnlessStray accepted isText).optional ?_
  rintro rfl
  cases accepted.admits isText

/-- A numeral that may be missing is read from its member unless it is stray. -/
theorem Numeral.optionalMember_readsUnlessStray
    {name : String}
    (accepted : ∀ json, (name, json) ∈ members →
      descriptionDocument.AcceptsWithin (budget + 3)
        (definition "numeric") json) :
    ReadsUnlessStray (memberValues name (.object members))
      (memberOr none (Decoding.optional Numeral.ofJson) name members) := by
  rw [← List.flatMap_singleton' (memberValues name (.object members))]
  refine .memberOr fun json member =>
    (Numeral.readsUnlessStray (accepted json member)).optional ?_
  rintro rfl
  have refused := accepted .null member
  rw [@accepts_definition_iff "numeric" numeralSchema rfl] at refused
  simp only [numeralSchema, Schema.Document.acceptsWithin_keywords,
    List.forall_mem_singleton, Keyword.accepts_oneOf_pair_iff] at refused
  simp [Keyword.Accepts, Schema.Kind.admits] at refused

/-- A member without numerals is always read. -/
theorem Decoding.ReadsUnlessStray.textMemberOr
    {α : Type}
    {default : α}
    {field : Json → Except Fault α}
    {name : String}
    (isField :
      ∀ json, (name, json) ∈ members → ReadsUnlessStray [] (field json)) :
    ReadsUnlessStray [] (Decoding.memberOr default field name members) := by
  have none : (memberValues name (.object members)).flatMap
      (fun _ => ([] : List Json)) = [] := by
    simp
  rw [← none]
  exact .memberOr isField

/-- One of the two kinds of targets is there, and it is a text. -/
theorem Target.readsUnlessStray
    (accepted : descriptionDocument.AcceptsWithin (budget + 4) callSchema
      (.object members)) :
    ReadsUnlessStray [] (Target.ofMembers members) := by
  rw [Target.ofMembers]
  cases isRule : Json.member? "rule" members with
  | some json =>
      have isName := accepted.of_member (mem_of_member?_eq_some isRule) rfl
      exact (name_readsUnlessStray isName).map _
  | none =>
      cases isShape : Json.member? "shape" members with
      | some json =>
          have isText := accepted.of_member (mem_of_member?_eq_some isShape) rfl
          exact (text_readsUnlessStray isText (by simp)).map _
      | none =>
          have oneTarget := accepted
            (.oneOf [.keywords [.required ["rule"]],
                .keywords [.required ["shape"]]]) (by simp)
          rw [Keyword.accepts_oneOf_pair_iff] at oneTarget
          simp [Schema.Document.acceptsWithin_keywords, Keyword.Accepts,
            isRule, isShape]
            at oneTarget

theorem Call.readsUnlessStray
    {json : Json}
    (accepted :
      descriptionDocument.AcceptsWithin (budget + 4) callSchema json) :
    ReadsUnlessStray (callNumerals json) (Call.ofJson json) := by
  have isObject : Schema.Kind.object.admits json = true :=
    accepted.admits (by simp)
  cases json with
  | object members =>
      rw [← List.append_nil (callNumerals _)]
      refine .bind (Numeral.optionalMember_readsUnlessStray fun json member =>
        accepted.of_member member rfl) fun count => ?_
      refine .bind (.textMemberOr fun json member =>
        text_readsUnlessStray (accepted.of_member member rfl) (by simp))
          fun transforms => ?_
      exact .bind (Target.readsUnlessStray accepted) fun target => .ok _
  | _ => cases isObject

/-- An accepted list is read unless an item holds a stray numeral. -/
theorem Decoding.ReadsUnlessStray.list
    {α : Type}
    {numerals : Json → List Json}
    {item : Json → Except Fault α}
    {schema : Schema}
    {others : List Keyword}
    {json : Json}
    (accepted : document.AcceptsWithin (budget + 1)
      (.keywords (.items schema :: others)) json)
    (isList : Keyword.type [.array] ∈ others)
    (isItem : ∀ json, document.AcceptsWithin budget schema json →
      ReadsUnlessStray (numerals json) (item json)) :
    ReadsUnlessStray ((listItems json).flatMap numerals)
      (Decoding.list item json) := by
  have isArray : Schema.Kind.array.admits json = true :=
    accepted.admits (List.mem_cons_of_mem _ isList)
  cases json with
  | array items =>
      refine .mapM fun json inItems => isItem json ?_
      exact accepted (.items schema) List.mem_cons_self items rfl json inItems
  | _ => cases isArray

/-- An accepted object has the members that its schema requires. -/
theorem Decoding.exists_member_of_required
    {keywords : List Keyword}
    (accepted : document.AcceptsWithin (budget + 1) (.keywords keywords)
      (.object members))
    {name : String}
    (isRequired : Keyword.required [name] ∈ keywords) :
    ∃ json, Json.member? name members = some json :=
  Option.isSome_iff_exists.mp
    (accepted _ isRequired members rfl name (List.mem_singleton.mpr rfl))

/-- An accepted rule is read unless one of its numerals is stray. -/
theorem Rule.readsUnlessStray
    {json : Json}
    (accepted : descriptionDocument.AcceptsWithin (budget + 7) ruleSchema json)
    (container : Container) :
    ReadsUnlessStray (ruleNumerals json) (Rule.ofJson container json) := by
  have isObject : Schema.Kind.object.admits json = true :=
    accepted.admits (by simp)
  cases json with
  | object members =>
      obtain ⟨json, isMember⟩ : ∃ json,
          Json.member? "name" members = some json :=
        exists_member_of_required accepted (by simp)
      obtain ⟨name, isName⟩ : ∃ name, Decoding.text json = .ok name :=
        (name_readsUnlessStray
          (accepted.of_member (mem_of_member?_eq_some isMember)
              rfl)).exists_ok_iff.mpr (by simp)
      have named : memberOr none
          (fun json => (Decoding.text json).map some) "name" members =
          .ok (some name) := by
        simp [memberOr, isMember, isName, Except.map]
      rw [ruleNumerals, List.append_assoc]
      refine .bind (.memberOr fun json member =>
        .list (accepted.of_member member rfl) (by simp)
        fun json isCall => Call.readsUnlessStray
          ((accepts_definition_iff rfl _ json).mp isCall)) fun calls => ?_
      refine .bind (Numeral.optionalMember_readsUnlessStray fun json member =>
        accepted.of_member member rfl) fun maxDepth => ?_
      rw [named, ← List.append_nil (memberValues "weight" (.object members))]
      change ReadsUnlessStray ([] ++ _)
        (memberOr none
          (Decoding.optional Decoding.text) "successor" members >>= _)
      refine .bind (.textMemberOr fun json member =>
        optionalText_readsUnlessStray
          ((accepts_definition_iff rfl _ json).mp
            (accepted.of_member member rfl))
          (by simp)) fun successor => ?_
      exact .bind (Numeral.optionalMember_readsUnlessStray fun json member =>
        accepted.of_member member rfl) fun weight => .ok _
  | _ => cases isObject

/-- An accepted rule set is read unless one of its numerals is stray. -/
theorem RuleSet.readsUnlessStray
    (accepted :
      descriptionDocument.AcceptsWithin (budget + 10) descriptionSchema
        (.object members))
    (container : Container) :
    ReadsUnlessStray (numeralValues (.object members))
      (RuleSet.ofMembers container members) := by
  obtain ⟨json, isMember⟩ : ∃ json, Json.member? "rules" members = some json :=
    exists_member_of_required accepted (by simp)
  have rules : memberValues "rules" (.object members) = [json] := by
    simp [memberValues, isMember]
  rw [numeralValues, rules, List.flatMap_singleton, RuleSet.ofMembers, isMember]
  refine .bind ?_ fun maxDepth => ?_
  · rw [← List.flatMap_singleton' (memberValues "max_depth" (.object members))]
    exact .memberOr fun json member =>
      Numeral.readsUnlessStray (accepted.of_member member rfl)
  · rw [← List.append_nil ((listItems json).flatMap ruleNumerals)]
    refine .bind (.list
      (accepted.of_member (mem_of_member?_eq_some isMember) rfl) (by simp)
      fun json isRule => Rule.readsUnlessStray
        ((accepts_definition_iff rfl _ json).mp isRule) container)
        fun rules => .ok _

theorem Description.readsUnlessStray
    {json : Json}
    (accepted :
      descriptionDocument.AcceptsWithin (budget + 10) descriptionSchema json) :
    ReadsUnlessStray (numeralValues json) (Description.ofJson json) := by
  have isObject : Schema.Kind.object.admits json = true :=
    accepted.admits (by simp)
  cases json with
  | object members =>
      rw [← List.append_nil (numeralValues _)]
      change ReadsUnlessStray ([] ++ ([] ++ _)) _
      refine .bind (.textMemberOr fun json member =>
        optionalText_readsUnlessStray (accepted.of_member member rfl) (by simp))
          fun source => ?_
      refine .bind (.textMemberOr fun json member =>
        optionalText_readsUnlessStray (accepted.of_member member rfl) (by simp))
          fun title => ?_
      exact .bind (RuleSet.readsUnlessStray accepted .description)
        fun ruleSet => .ok _
  | _ => cases isObject

end

namespace Description

theorem readsUnlessStray_of_messages
    {json : Json}
    (accepted : LabelledSchema.embedded.messages json = []) :
    ReadsUnlessStray (numeralValues json) (ofJson json) := by
  obtain ⟨budget, accepts⟩ := exists_messages_embedded_eq_nil_iff json
  exact readsUnlessStray (accepts.mp accepted)

/--
A text is refused for its structure where the schema accepts it and the
reader does not.
-/
theorem read_eq_misshapen_iff
    (content : String)
    (fault : Decoding.Fault) :
    read .embedded content = .error (.misshapen fault) ↔
      ∃ json, Json.read content = .ok json ∧
        LabelledSchema.embedded.messages json = [] ∧
        ofJson json = .error fault := by
  rw [read]
  cases Json.read content with
  | error fault => simp
  | ok json =>
      simp only [Except.ok.injEq, exists_eq_left']
      cases LabelledSchema.embedded.messages json with
      | cons message more => simp
      | nil => cases ofJson json <;> simp [Except.mapError]

/--
A value that the embedded schema accepts is read as a description unless
one of its numerals is a text of blanks that the schema does not take for
blank. A text is refused for its structure in this case only, and the
refusal names such a numeral.
-/
theorem accepted_values_are_read_unless_stray
    (json : Json)
    (content : String) :
    (LabelledSchema.embedded.messages json = [] →
      ((∃ description, ofJson json = .ok description) ↔
        ∀ text, .text text ∈ numeralValues json → ¬ Text.IsStray text)) ∧
      (∀ fault, read .embedded content = .error (.misshapen fault) →
        ∃ value text, Json.read content = .ok value ∧
          .text text ∈ numeralValues value ∧
          Text.IsStray text ∧ fault = .blankNumeral text) ∧
        ∀ text, Json.read content = .ok json →
          LabelledSchema.embedded.messages json = [] →
          .text text ∈ numeralValues json → Text.IsStray text →
            ∃ fault, read .embedded content = .error (.misshapen fault) := by
  refine ⟨fun accepted =>
    (readsUnlessStray_of_messages accepted).exists_ok_iff, ?_, ?_⟩
  · intro fault refused
    obtain ⟨value, isValue, accepted, isFault⟩ :=
      (read_eq_misshapen_iff content fault).mp refused
    have answer := readsUnlessStray_of_messages accepted
    rw [isFault] at answer
    cases answer with
    | refused member stray => exact ⟨value, _, isValue, member, stray, rfl⟩
  · intro text isJson accepted member stray
    have answer := readsUnlessStray_of_messages accepted
    cases decoded : ofJson json with
    | ok description =>
        have inked := answer.exists_ok_iff.mp ⟨description, decoded⟩
        exact absurd stray (inked text member)
    | error fault =>
        exact ⟨fault, (read_eq_misshapen_iff content fault).mpr
          ⟨json, isJson, accepted, decoded⟩⟩

/-- A description whose depth limit is an ideographic space. -/
def strayDepth : Json :=
  .object
    [("max_depth", .text "\u3000"),
      ("rules", .array [.object [("name", .text "entry")]])]

/-- A text of this description. -/
def strayText : String :=
  "\x7b\"max_depth\":\"\u3000\",\"rules\":[\x7b\"name\":\"entry\"\x7d]\x7d"

/--
A depth that is one stray blank is accepted by the schema and refused by the
reader.
-/
theorem stray_depth_is_accepted_and_refused :
    Json.read strayText = .ok strayDepth ∧
      LabelledSchema.embedded.messages strayDepth = [] ∧
        (¬ ∃ description, ofJson strayDepth = .ok description) ∧
          ∃ fault, read .embedded strayText = .error (.misshapen fault) := by
  have isJson : Json.read strayText = .ok strayDepth := by
    with_unfolding_all rfl
  have accepted : LabelledSchema.embedded.messages strayDepth = [] := by
    decide +kernel
  have stray : Text.IsStray "\u3000" :=
    ⟨List.forall_mem_singleton.mpr rfl, _, List.mem_cons_self, rfl⟩
  obtain ⟨isReadIff, -, isRefused⟩ :=
    accepted_values_are_read_unless_stray strayDepth strayText
  refine ⟨isJson, accepted, fun isRead => ?_, ?_⟩
  · exact (isReadIff accepted).mp isRead "\u3000" List.mem_cons_self stray
  · exact isRefused "\u3000" isJson accepted List.mem_cons_self stray

end Description

end Eisen
