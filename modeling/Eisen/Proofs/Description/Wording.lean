import Eisen.Description.Files
import Eisen.Proofs.Description.Contents
import Eisen.Proofs.RuleSet.Wording
import Eisen.Proofs.Schema.Wording

namespace Eisen

/-!
# Faults of descriptions are worded in one line

A description is read as JSON, checked against a schema and decoded. Where the
texts and names of members of the JSON value are one line each, every fault of
the three steps is worded in one line, and so is all that the rule set shows.
-/

open Text

/-! Faults. -/

/-- No digit of a number is a line end. -/
theorem Text.feed_not_mem_toDigits (number : Nat) :
    '\n' ∉ Nat.toDigits 16 number := by
  have digits : ∀ digit < 16, '\n' ≠ Nat.digitChar digit := by decide
  induction number using Nat.strong_induction_on with
  | _ number inductionHypothesis =>
  rw [Nat.toDigits_eq_if (by decide)]
  split
  · next small =>
      exact fun feed => digits number small (List.mem_singleton.mp feed)
  · rw [List.mem_append, List.mem_singleton, not_or]
    exact ⟨inductionHypothesis (number / 16) (by omega),
      digits _ (Nat.mod_lt _ (by decide))⟩

/-- A line end is quoted by an escape. -/
theorem Text.feed_not_mem_quotedCharacter (character : Char) :
    '\n' ∉ quotedCharacter character := by
  unfold quotedCharacter
  split_ifs with zero tab carriage feed quote slash escaped
  · decide
  · decide
  · decide
  · decide
  · decide
  · decide
  · have digits := feed_not_mem_toDigits character.toNat
    simp [hexDigits, digits]
  · simpa using Ne.symm feed

/-- Quoted texts stand in one line. -/
theorem Text.isOneLine_quoted (text : String) : IsOneLine (quoted text) := by
  rw [quoted, isOneLine_ofList, List.mem_cons, List.mem_append,
    List.mem_flatMap]
  rintro (isFeed | ⟨character, -, inQuoted⟩ | inEnd)
  · cases isFeed
  · exact feed_not_mem_quotedCharacter character inQuoted
  · cases List.mem_singleton.mp inEnd

/-- Faults of the notation are told in one line. -/
theorem Json.Fault.isOneLine_message (fault : Json.Fault) :
    Text.IsOneLine fault.message := by
  have cause : Text.IsOneLine fault.cause.text := by
    cases fault.cause <;> exact isOneLine_literal rfl
  simp only [message, isOneLine_append, cause, isOneLine_toString,
    true_and, and_true]
  and_intros <;> exact isOneLine_literal rfl

/-- Faults of the storage are told in one line. -/
theorem Storage.Fault.isOneLine_message (fault : Storage.Fault) :
    Text.IsOneLine fault.message := by
  cases fault <;> exact isOneLine_literal rfl

namespace Decoding

/-- What is found in place of something else is told in one line. -/
theorem isOneLine_found (value : Json) : Text.IsOneLine (found value) := by
  unfold found
  cases value with
  | null => exact isOneLine_literal rfl
  | bool value => cases value <;> exact isOneLine_literal rfl
  | integer value =>
      simp only [isOneLine_append, isOneLine_toString_int, and_true]
      and_intros <;> exact isOneLine_literal rfl
  | real value =>
      simp only [isOneLine_append, Json.isOneLine_realText, and_true]
      and_intros <;> exact isOneLine_literal rfl
  | text value =>
      simp only [isOneLine_append, Text.isOneLine_quoted, and_true]
      exact isOneLine_literal rfl
  | array items => exact isOneLine_literal rfl
  | object members => exact isOneLine_literal rfl

/-- What is wanted is told in one line. -/
theorem Wanted.isOneLine_message (wanted : Wanted) :
    Text.IsOneLine wanted.message := by
  cases wanted <;> exact isOneLine_literal rfl

/-- A value of the wrong kind is reported in one line. -/
theorem isOneLine_wrongKind
    (value : Json)
    (wanted : Wanted) :
    Text.IsOneLine (Fault.wrongKind value wanted).message := by
  unfold Fault.message
  simp only [isOneLine_append, isOneLine_found,
    Wanted.isOneLine_message, and_true]
  and_intros <;> exact isOneLine_literal rfl

/-- A blank numeral is reported in one line, since it is quoted. -/
theorem isOneLine_blankNumeral (text : String) :
    Text.IsOneLine (Fault.blankNumeral text).message := by
  unfold Fault.message
  simp only [isOneLine_append, isOneLine_found,
    Wanted.isOneLine_message, and_true]
  and_intros <;> exact isOneLine_literal rfl

/-- A missing member is reported in one line if its name is one. -/
theorem isOneLine_missingMember
    {name : String}
    (plain : Text.IsOneLine name) :
    Text.IsOneLine (Fault.missingMember name).message := by
  unfold Fault.message
  simp only [isOneLine_append, plain, and_true]
  and_intros <;> exact isOneLine_literal rfl

/-- A list that is too short is reported in one line. -/
theorem isOneLine_shortList
    (length : Nat)
    (wanted : Wanted)
    (fields : Nat) :
    Text.IsOneLine (Fault.shortList length wanted fields).message := by
  unfold Fault.message
  simp only [isOneLine_append, isOneLine_toString,
    Wanted.isOneLine_message, and_true]
  and_intros <;> exact isOneLine_literal rfl

/-- A list that is too long is reported in one line. -/
theorem isOneLine_longList
    (container : Container)
    (length fields : Nat) :
    Text.IsOneLine (Fault.longList container length fields).message := by
  unfold Fault.message
  cases container <;>
    simp only [isOneLine_append, isOneLine_toString, and_true] <;>
    and_intros <;> exact isOneLine_literal rfl

/-! Decoders. -/

/--
A fault of decoding whose message is one line, or an answer of which
something holds.
-/
abbrev Decodes
    {α : Type}
    (Holds : α → Prop) :
    Except Fault α → Prop :=
  FailsInOneLine Fault.message Holds

section

variable {α : Type} {Holds : α → Prop} {value : Json}
  {members : List (String × Json)}

theorem forall_mem_none : ∀ part ∈ (none : Option α), Holds part := by
  intro part isPart
  cases isPart

/-- Texts without line ends decode. -/
theorem text_decodes
    (plain : value.IsOneLine) :
    Decodes Text.IsOneLine (text value) := by
  cases plain with
  | text plain => exact plain
  | _ => exact isOneLine_wrongKind _ .text

/-- Lists decode where each of their items does. -/
theorem mapM_decodes
    {item : Json → Except Fault α}
    (each : ∀ value, value.IsOneLine → Decodes Holds (item value))
    {items : List Json}
    (plain : ∀ value ∈ items, value.IsOneLine) :
    Decodes (fun found => ∀ part ∈ found, Holds part) (items.mapM item) := by
  induction items with
  | nil => exact List.forall_mem_nil _
  | cons first rest inductionHypothesis =>
      rw [List.forall_mem_cons] at plain
      rw [List.mapM_cons]
      refine (each first plain.1).bind fun head isHead => ?_
      refine (inductionHypothesis plain.2).bind fun tail isTail => ?_
      exact List.forall_mem_cons.mpr ⟨isHead, isTail⟩

/-- A list decodes where its items do. -/
theorem list_decodes
    {item : Json → Except Fault α}
    (each : ∀ value, value.IsOneLine → Decodes Holds (item value))
    (plain : value.IsOneLine) :
    Decodes (fun found => ∀ part ∈ found, Holds part) (list item value) := by
  cases plain with
  | array items => exact mapM_decodes each items
  | _ => exact isOneLine_wrongKind _ .list

/-- A value that may be missing decodes where it is there. -/
theorem some_decodes
    {answer : Except Fault α}
    (decodes : Decodes Holds answer) :
    Decodes (fun found => ∀ part ∈ found, Holds part) (answer.map some) := by
  refine decodes.map fun found holds part isPart => ?_
  cases isPart
  exact holds

/-- A value that may be null decodes where its field does. -/
theorem optional_decodes
    {field : Json → Except Fault α}
    (each : ∀ value, value.IsOneLine → Decodes Holds (field value))
    (plain : value.IsOneLine) :
    Decodes (fun found => ∀ part ∈ found, Holds part)
      (optional field value) := by
  unfold optional
  split
  · exact forall_mem_none
  · exact some_decodes (each _ plain)

/-- A member decodes where its field does, and else the default holds. -/
theorem memberOr_decodes
    {default : α}
    (fallback : Holds default)
    {field : Json → Except Fault α}
    (each : ∀ value, value.IsOneLine → Decodes Holds (field value))
    (name : String)
    (plain : ∀ member ∈ members, member.2.IsOneLine) :
    Decodes Holds (memberOr default field name members) := by
  unfold memberOr
  split
  · next value found =>
      exact each value (plain _ (mem_of_member?_eq_some found))
  · exact fallback

/--
An item at a place decodes where its field does, and else the default holds.
-/
theorem itemOr_decodes
    {default : α}
    (fallback : Holds default)
    {field : Json → Except Fault α}
    (each : ∀ value, value.IsOneLine → Decodes Holds (field value))
    (index : Nat)
    {items : List Json}
    (plain : ∀ value ∈ items, value.IsOneLine) :
    Decodes Holds (itemOr default field index items) := by
  unfold itemOr
  split
  · next value found =>
      exact each value (plain value (List.mem_of_getElem? found))
  · exact fallback

end

end Decoding

open Decoding

/-- Trimming adds no line end. -/
theorem Text.isOneLine_trim
    {text : String}
    (plain : IsOneLine text) :
    IsOneLine (trim text) := by
  rw [trim, isOneLine_ofList, trimmed, List.mem_reverse]
  intro feed
  have inFront := List.mem_reverse.mp ((List.dropWhile_suffix _).mem feed)
  exact plain ((List.dropWhile_suffix _).mem inFront)

/-- Numerals decode without line ends. -/
theorem Numeral.ofJson_decodes
    {value : Json}
    (plain : value.IsOneLine) :
    Decodes (fun numeral => Text.IsOneLine numeral.text) (ofJson value) := by
  cases plain with
  | integer number => exact isOneLine_toString_int number
  | real number => exact isOneLine_numberText number
  | @text content plain =>
      rw [ofJson]
      split
      · exact isOneLine_blankNumeral content
      · exact Text.isOneLine_trim plain
  | _ => exact isOneLine_wrongKind _ .numeral

/-- Targets decode without line ends. -/
theorem Target.ofMembers_decodes
    {members : List (String × Json)}
    (plain : ∀ member ∈ members, member.2.IsOneLine) :
    Decodes (fun target => Text.IsOneLine target.name) (ofMembers members) := by
  unfold ofMembers
  split
  · next value found =>
      exact (text_decodes (plain _ (mem_of_member?_eq_some found))).map
        fun _ named => named
  · split
    · next value found =>
        exact (text_decodes (plain _ (mem_of_member?_eq_some found))).map
          fun _ named => named
    · exact isOneLine_literal rfl

/-- Calls decode with targets and counts without line ends. -/
theorem Call.ofJson_decodes
    {value : Json}
    (plain : value.IsOneLine) :
    Decodes (fun call => Text.IsOneLine call.target.name ∧
      ∀ count ∈ call.count, Text.IsOneLine count.text) (ofJson value) := by
  cases plain with
  | object names values =>
      rw [ofJson]
      refine (memberOr_decodes forall_mem_none
        (fun _ => optional_decodes fun _ =>
        Numeral.ofJson_decodes) "count" values).bind fun count counted => ?_
      refine (memberOr_decodes (isOneLine_literal rfl)
        (fun _ => text_decodes) "transforms"
        values).bind fun transforms _ => ?_
      refine (Target.ofMembers_decodes values).bind fun target named => ?_
      exact ⟨named, counted⟩
  | _ => exact isOneLine_wrongKind _ .call

/-- The fields of a rule make up a rule of one line. -/
theorem Rule.isOneLine_of_fields
    {name : String}
    (named : Text.IsOneLine name)
    {weight maxDepth : Option Numeral}
    (weighed : ∀ numeral ∈ weight, Text.IsOneLine numeral.text)
    (limited : ∀ numeral ∈ maxDepth, Text.IsOneLine numeral.text)
    {successor : Option String}
    (succeeded : ∀ text ∈ successor, Text.IsOneLine text)
    {calls : List Call}
    (called : ∀ call ∈ calls, Text.IsOneLine call.target.name ∧
      ∀ count ∈ call.count, Text.IsOneLine count.text) :
    (Rule.mk name weight maxDepth successor calls).IsOneLine where
  name := named
  successor := succeeded
  targets := fun call member => (called call member).1
  numerals := (forall_mem_numerals_iff _ _).mpr
    ⟨weighed, limited, fun call member => (called call member).2⟩

section

variable {members : List (String × Json)}
  (plain : ∀ member ∈ members, member.2.IsOneLine)
include plain

/-- Rules that are written as objects decode without line ends. -/
theorem Rule.ofObject_decodes (container : Container) :
    Decodes Rule.IsOneLine (ofJson container (.object members)) := by
  rw [ofJson]
  refine (memberOr_decodes (List.forall_mem_nil _)
    (fun _ => list_decodes fun _ =>
    Call.ofJson_decodes) "calls" plain).bind fun calls called => ?_
  refine (memberOr_decodes forall_mem_none (fun _ => optional_decodes fun _ =>
    Numeral.ofJson_decodes) "max_depth" plain).bind fun maxDepth limited => ?_
  refine (memberOr_decodes forall_mem_none
    (fun _ fine => some_decodes (text_decodes fine)) "name"
    plain).bind fun name named => ?_
  refine (memberOr_decodes forall_mem_none
    (fun _ => optional_decodes fun _ => text_decodes)
    "successor" plain).bind fun successor succeeded => ?_
  refine (memberOr_decodes forall_mem_none (fun _ => optional_decodes fun _ =>
    Numeral.ofJson_decodes) "weight" plain).bind fun weight weighed => ?_
  split
  · exact isOneLine_of_fields (named _ rfl) weighed limited succeeded called
  · exact isOneLine_missingMember (isOneLine_literal rfl)

end

/-- Rules that are written as lists decode without line ends. -/
theorem Rule.ofItems_decodes
    (container : Container)
    {first : Json}
    (firstPlain : first.IsOneLine)
    {rest : List Json}
    (plain : ∀ value ∈ rest, value.IsOneLine) :
    Decodes Rule.IsOneLine (ofJson container (.array (first :: rest))) := by
  rw [ofJson]
  refine (text_decodes firstPlain).bind fun name named => ?_
  refine (itemOr_decodes forall_mem_none (fun _ => optional_decodes fun _ =>
    Numeral.ofJson_decodes) 0 plain).bind fun weight weighed => ?_
  refine (itemOr_decodes forall_mem_none (fun _ => optional_decodes fun _ =>
    Numeral.ofJson_decodes) 1 plain).bind fun maxDepth limited => ?_
  refine (itemOr_decodes forall_mem_none
    (fun _ => optional_decodes fun _ => text_decodes)
    2 plain).bind fun successor succeeded => ?_
  refine (itemOr_decodes (List.forall_mem_nil _) (fun _ => list_decodes fun _ =>
    Call.ofJson_decodes) 3 plain).bind fun calls called => ?_
  split
  · exact isOneLine_longList container _ 5
  · exact isOneLine_of_fields named weighed limited succeeded called

/-- Rules decode without line ends. -/
theorem Rule.ofJson_decodes
    (container : Container)
    {value : Json}
    (plain : value.IsOneLine) :
    Decodes Rule.IsOneLine (ofJson container value) := by
  cases plain with
  | object names values => exact ofObject_decodes values container
  | @array items each =>
      cases items with
      | nil => exact isOneLine_shortList 0 .rule 5
      | cons first rest =>
          rw [List.forall_mem_cons] at each
          exact ofItems_decodes container each.1 each.2
  | _ => exact isOneLine_wrongKind _ .rule

/-- Rule sets decode without line ends. -/
theorem RuleSet.ofMembers_decodes
    (container : Container)
    {members : List (String × Json)}
    (plain : ∀ member ∈ members, member.2.IsOneLine) :
    Decodes RuleSet.IsOneLine (ofMembers container members) := by
  rw [ofMembers]
  have limit : Decodes (fun numeral => Text.IsOneLine numeral.text)
      (memberOr defaultMaxDepth Numeral.ofJson "max_depth" members) := by
    refine memberOr_decodes ?_ (fun _ => Numeral.ofJson_decodes) _ plain
    exact isOneLine_literal rfl
  refine limit.bind fun maxDepth limited => ?_
  split
  · exact isOneLine_missingMember (isOneLine_literal rfl)
  · next value found =>
      have rules := list_decodes (fun _ => Rule.ofJson_decodes container)
        (plain _ (mem_of_member?_eq_some found))
      exact rules.bind fun rules each => ⟨limited, each⟩

/-! Descriptions. -/

namespace Description

/-- Descriptions decode without line ends. -/
theorem ofJson_decodes
    {value : Json}
    (plain : value.IsOneLine) :
    Decodes (fun description => description.ruleSet.IsOneLine)
      (ofJson value) := by
  cases plain with
  | object names values =>
      rw [ofJson]
      refine (memberOr_decodes forall_mem_none
        (fun _ => optional_decodes fun _ => text_decodes)
        "source" values).bind fun source _ => ?_
      refine (memberOr_decodes forall_mem_none
        (fun _ => optional_decodes fun _ => text_decodes)
        "title" values).bind fun title _ => ?_
      exact (RuleSet.ofMembers_decodes .description values).bind
        fun _ plain => plain
  | _ => exact isOneLine_wrongKind _ .description

/--
The JSON value of a text, if it has one, is made of texts and names of one line.
-/
def HoldsOneLine (content : String) : Prop :=
  ∀ value, Json.read content = .ok value → value.IsOneLine

/-- The messages of a schema stand in one line where schema and value do. -/
theorem messages_isOneLine
    {schema : LabelledSchema}
    (shown : schema.document.IsOneLine)
    {value : Json}
    (plain : value.IsOneLine) :
    ∀ message ∈ schema.messages value, Text.IsOneLine message := by
  rw [LabelledSchema.messages, List.forall_mem_map]
  exact Schema.violations_isOneLine shown plain

/--
A description of one line is refused in one line, or it has a rule
set of one line.
-/
theorem read_inOneLine
    {schema : LabelledSchema}
    (shown : schema.document.IsOneLine)
    {content : String}
    (plain : HoldsOneLine content) :
    FailsInOneLine Fault.message
      (fun description => description.ruleSet.IsOneLine)
      (read schema content) := by
  unfold read
  split
  · next fault isFault =>
      exact (isOneLine_append _ _).mpr
        ⟨isOneLine_literal rfl, fault.isOneLine_message⟩
  · next value isValue =>
      have fine := plain value isValue
      split
      · have decoded := ofJson_decodes fine
        cases form : ofJson value with
        | ok description => exact decoded.holds form
        | error fault =>
            exact (isOneLine_append _ _).mpr
              ⟨isOneLine_literal rfl, decoded.isOneLine form⟩
      · have list := isOneLine_intercalate "; " (isOneLine_literal rfl)
          (messages_isOneLine shown fine)
        exact (isOneLine_append _ _).mpr ⟨isOneLine_literal rfl, list⟩

/-! The embedded schema. -/

/-- A schema with a pattern is shown in one line if the pattern is. -/
theorem isOneLine_patternSchema
    {pattern : Schema.TextPattern}
    (plain : Text.IsOneLine pattern.source) :
    Schema.IsOneLine (.keywords [.pattern pattern, .type [.string]]) :=
  .keywords (List.forall_mem_cons.mpr
    ⟨.pattern plain, List.forall_mem_singleton.mpr (.type _)⟩)

/-- The definitions of the schema have names of one line. -/
theorem isOneLine_definition
    {name : String}
    (plain : Text.IsOneLine name) :
    (definition name).IsOneLine :=
  .reference ((isOneLine_append _ _).mpr ⟨isOneLine_literal rfl, plain⟩)

theorem isOneLine_textSchema : textSchema.IsOneLine :=
  .keywords (List.forall_mem_singleton.mpr (.type _))

theorem isOneLine_numeralSchema : numeralSchema.IsOneLine :=
  .keywords (List.forall_mem_singleton.mpr (.oneOf _))

theorem isOneLine_nameSchema : nameSchema.IsOneLine :=
  isOneLine_patternSchema (isOneLine_literal rfl)

theorem isOneLine_shapeSchema : shapeSchema.IsOneLine :=
  isOneLine_patternSchema (isOneLine_literal rfl)

theorem isOneLine_numeralDefinition : (definition "numeric").IsOneLine :=
  isOneLine_definition (isOneLine_literal rfl)

theorem isOneLine_nameDefinition : (definition "rule_name").IsOneLine :=
  isOneLine_definition (isOneLine_literal rfl)

theorem isOneLine_callSchema : callSchema.IsOneLine := by
  refine .keywords ?_
  simp only [List.forall_mem_cons, List.not_mem_nil, false_implies,
    implies_true, and_true]
  refine ⟨.closedProperties ?_, .oneOf _, .type _⟩
  simp only [List.forall_mem_cons, isOneLine_textSchema,
    isOneLine_numeralDefinition, isOneLine_nameDefinition,
    isOneLine_shapeSchema, List.not_mem_nil, false_implies,
    implies_true, and_true]

theorem isOneLine_ruleSchema : ruleSchema.IsOneLine := by
  have calls : Schema.IsOneLine
      (.keywords [.items (definition "call"), .type [.array]]) :=
    .keywords (List.forall_mem_cons.mpr
      ⟨.items (isOneLine_definition (isOneLine_literal rfl)),
        List.forall_mem_singleton.mpr (.type _)⟩)
  refine .keywords ?_
  simp only [List.forall_mem_cons, List.not_mem_nil, false_implies,
    implies_true, and_true]
  refine ⟨.closedProperties ?_, .required _, .type _⟩
  simp only [List.forall_mem_cons, calls, isOneLine_numeralDefinition,
    isOneLine_nameDefinition, List.not_mem_nil, false_implies,
    implies_true, and_true]

theorem isOneLine_descriptionSchema : descriptionSchema.IsOneLine := by
  have rules : Schema.IsOneLine
      (.keywords [.items (definition "rule"), .minItems 1,
          .type [.array]]) := by
    refine .keywords ?_
    simp only [List.forall_mem_cons, List.not_mem_nil, false_implies,
      implies_true, and_true]
    exact ⟨.items (isOneLine_definition (isOneLine_literal rfl)),
      .minItems 1, .type _⟩
  refine .keywords ?_
  simp only [List.forall_mem_cons, List.not_mem_nil, false_implies,
    implies_true, and_true]
  refine ⟨.closedProperties ?_, .required _, .type _⟩
  simp only [List.forall_mem_cons, rules, isOneLine_textSchema,
    isOneLine_numeralDefinition, List.not_mem_nil, false_implies,
    implies_true, and_true]

/-- The embedded schema has nothing to show that takes more than one line. -/
theorem isOneLine_embedded : LabelledSchema.embedded.document.IsOneLine where
  root := isOneLine_descriptionSchema
  targets := by
    intro name schema member
    simp only [LabelledSchema.embedded, descriptionDocument, List.mem_cons,
      Prod.mk.injEq, Except.ok.injEq, List.not_mem_nil, or_false] at member
    rcases member with ⟨-, rfl⟩ | ⟨-, rfl⟩ | ⟨-, rfl⟩ | ⟨-, rfl⟩
    · exact isOneLine_numeralSchema
    · exact isOneLine_nameSchema
    · exact isOneLine_callSchema
    · exact isOneLine_ruleSchema
  faults := by
    intro name violation member
    simp [LabelledSchema.embedded, descriptionDocument] at member

end Description

end Eisen
