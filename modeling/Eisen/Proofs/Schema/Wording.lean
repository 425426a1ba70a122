import Eisen.Proofs.Json.RoundTrip
import Eisen.Proofs.Text.Lines

namespace Eisen

/-!
# Violations are worded in one line

The message of a violation shows the value in its compact form, in which a line
feed is escaped. Names of members and steps of a location are shown as they
stand, and so are the patterns and the references of the schema.
-/

open Text

/-! Values. -/

namespace Json

/-- A value whose texts and names of members are one line each. -/
inductive IsOneLine : Json → Prop
  | null : IsOneLine .null
  | bool (value : Bool) : IsOneLine (.bool value)
  | integer (value : Int) : IsOneLine (.integer value)
  | real (value : Binary64) : IsOneLine (.real value)
  | text {value : String} (plain : Text.IsOneLine value) : IsOneLine
    (.text value)
  | array {items : List Json}
    (each : ∀ item ∈ items, IsOneLine item) : IsOneLine (.array items)
  | object
      {members : List (String × Json)}
      (names : ∀ member ∈ members, Text.IsOneLine member.1)
      (values : ∀ member ∈ members, IsOneLine member.2) :
      IsOneLine (.object members)

/-- A line end is written by an escape. -/
theorem feed_not_mem_escapeCharacter (character : Char) :
    '\n' ∉ escapeCharacter character := by
  have codes : ∀ code < 0x20, '\n' ∉ codeEscape code := by decide
  unfold escapeCharacter
  split_ifs with quote slash back form feed carriage tab code
  · decide
  · decide
  · decide
  · decide
  · decide
  · decide
  · decide
  · exact codes _ code
  · simpa using Ne.symm feed

theorem isOneLine_quote (text : String) : Text.IsOneLine (quote text) := by
  rw [quote, isOneLine_ofList, List.mem_cons, List.mem_append, List.mem_flatMap]
  rintro (isFeed | ⟨character, -, inEscape⟩ | inEnd)
  · cases isFeed
  · exact feed_not_mem_escapeCharacter character inEscape
  · cases List.mem_singleton.mp inEnd

/-- Real numbers are written in one line. -/
theorem isOneLine_realText (number : Binary64) :
    Text.IsOneLine (realText number) := by
  have digits :
      ∀ symbol ∈ (Digits.shortest .even number).digits, symbol.isDigit = true :=
    Digits.isDigit_of_mem_shortest
  have noFeed : ¬ IsNumeric '\n' := by simp [IsNumeric]
  refine isOneLine_signed ?_ number.negative
  dsimp only
  split_ifs
  · decide
  · exact fun member => noFeed (isNumeric_of_mem_positional digits member)
  · rw [List.mem_append]
    rintro (member | isEnd)
    · exact noFeed (isNumeric_of_mem_positional digits member)
    · exact absurd isEnd (by decide)
  · exact fun member => noFeed (isNumeric_of_mem_scientific digits member)

mutual

/-- A value in compact form stands in one line. -/
theorem isOneLine_compact : (value : Json) → Text.IsOneLine value.compact
  | .null => by rw [compact]; exact isOneLine_literal rfl
  | .bool true => by rw [compact]; exact isOneLine_literal rfl
  | .bool false => by rw [compact]; exact isOneLine_literal rfl
  | .integer value => by rw [compact]; exact isOneLine_toString_int value
  | .real value => by rw [compact]; exact isOneLine_realText value
  | .text value => by rw [compact]; exact isOneLine_quote value
  | .array items => by
      have inside := isOneLine_intercalate "," (isOneLine_literal rfl)
        (isOneLine_compactItems items)
      simp only [compact, isOneLine_append, inside, and_true]
      and_intros <;> exact isOneLine_literal rfl
  | .object members => by
      have inside := isOneLine_intercalate "," (isOneLine_literal rfl)
        (isOneLine_compactMembers members)
      simp only [compact, isOneLine_append, inside, and_true]
      and_intros <;> exact isOneLine_literal rfl

/-- Items in compact form stand in one line each. -/
theorem isOneLine_compactItems :
    (items : List Json) → ∀ text ∈ compactItems items, Text.IsOneLine text
  | [] => by rw [compactItems]; exact List.forall_mem_nil _
  | item :: rest => by
      rw [compactItems, List.forall_mem_cons]
      exact ⟨isOneLine_compact item, isOneLine_compactItems rest⟩

/-- Members in compact form stand in one line each. -/
theorem isOneLine_compactMembers :
    (members : List (String × Json)) → ∀ text ∈ compactMembers members,
      Text.IsOneLine text
  | [] => by rw [compactMembers]; exact List.forall_mem_nil _
  | (name, value) :: rest => by
      have first := isOneLine_compact value
      rw [compactMembers, List.forall_mem_cons]
      refine ⟨?_, isOneLine_compactMembers rest⟩
      simp only [isOneLine_append, isOneLine_quote, first, true_and, and_true]
      exact isOneLine_literal rfl

end

end Json

/-! Schemas. -/

mutual

/--
A schema that shows texts of one line: its references, and those
of its keywords.
-/
inductive Schema.IsOneLine : Schema → Prop
  | always : Schema.IsOneLine .always
  | never : Schema.IsOneLine .never
  | reference {target : String}
    (plain : Text.IsOneLine target) : Schema.IsOneLine (.reference target)
  | keywords
      {list : List Keyword}
      (each : ∀ keyword ∈ list, Keyword.IsOneLine keyword) :
      Schema.IsOneLine (.keywords list)

/--
A keyword that shows texts of one line: its pattern, and those of the
schemas it hands on.
-/
inductive Keyword.IsOneLine : Keyword → Prop
  | type (kinds : List Schema.Kind) : Keyword.IsOneLine (.type kinds)
  | required (names : List String) : Keyword.IsOneLine (.required names)
  | properties
      {members : List (String × Schema)}
      (each : ∀ member ∈ members, Schema.IsOneLine member.2) :
      Keyword.IsOneLine (.properties members)
  | closedProperties
      {members : List (String × Schema)}
      (each : ∀ member ∈ members, Schema.IsOneLine member.2) :
      Keyword.IsOneLine (.closedProperties members)
  | noProperties : Keyword.IsOneLine .noProperties
  | openProperties
      {members : List (String × Schema)}
      {others : Schema}
      (each : ∀ member ∈ members, Schema.IsOneLine member.2)
      (other : Schema.IsOneLine others) :
      Keyword.IsOneLine (.openProperties members others)
  | items {schema : Schema} (each : Schema.IsOneLine schema) : Keyword.IsOneLine
    (.items schema)
  | minItems (count : Nat) : Keyword.IsOneLine (.minItems count)
  | uniqueItems : Keyword.IsOneLine .uniqueItems
  | pattern
      {text : Schema.TextPattern}
      (plain : Text.IsOneLine text.source) :
      Keyword.IsOneLine (.pattern text)
  | minimum (least : Int) : Keyword.IsOneLine (.minimum least)
  | enumeration (values : List String) : Keyword.IsOneLine (.enumeration values)
  | format (form : Schema.Format) : Keyword.IsOneLine (.format form)
  | allOf
      {schemas : List Schema}
      (each : ∀ schema ∈ schemas, Schema.IsOneLine schema) :
      Keyword.IsOneLine (.allOf schemas)
  | anyOf (schemas : List Schema) : Keyword.IsOneLine (.anyOf schemas)
  | oneOf (schemas : List Schema) : Keyword.IsOneLine (.oneOf schemas)

end

namespace Schema

/--
A cause whose own texts are one line each where they are shown as they stand.
-/
def Cause.IsOneLine : Cause → Prop
  | .unexpectedMembers names => ∀ name ∈ names, Text.IsOneLine name
  | .mismatch pattern => Text.IsOneLine pattern
  | .matchesNone keyword => Text.IsOneLine keyword
  | .unknownReference address => Text.IsOneLine address
  | .foreignReference address => Text.IsOneLine address
  | _ => True

/-- A violation that shows steps and causes of one line. -/
structure Violation.IsOneLine (violation : Violation) : Prop where
  location : ∀ step ∈ violation.location, Text.IsOneLine step
  cause : violation.cause.IsOneLine

/-- A document whose schemas show texts of one line. -/
structure Document.IsOneLine (document : Document) : Prop where
  root : document.root.IsOneLine
  targets : ∀ name schema,
    (name, .ok schema) ∈ document.targets → schema.IsOneLine
  faults : ∀ name violation,
    (name, .error violation) ∈ document.targets → violation.IsOneLine

/-! Messages. -/

/-- Names without line ends are listed in one line. -/
theorem isOneLine_nameList
    {names : List String}
    (each : ∀ name ∈ names, Text.IsOneLine name) :
    Text.IsOneLine (nameList names) := by
  refine isOneLine_intercalate ", " (isOneLine_literal rfl) ?_
  rw [List.forall_mem_map]
  intro name member
  simp only [isOneLine_append, each name member, and_true]
  and_intros <;> exact isOneLine_literal rfl

theorem isOneLine_name (kind : Kind) : Text.IsOneLine kind.name := by
  cases kind <;> exact isOneLine_literal rfl

theorem isOneLine_kindList (kinds : List Kind) :
    Text.IsOneLine (kindList kinds) := by
  refine isOneLine_intercalate ", " (isOneLine_literal rfl) ?_
  rw [List.forall_mem_map]
  intro kind member
  simp only [isOneLine_append, isOneLine_name, and_true]
  and_intros <;> exact isOneLine_literal rfl

theorem isOneLine_encodingFault (fault : Text.EncodingFault) :
    Text.IsOneLine fault.message := by
  unfold Text.EncodingFault.message
  split
  · simp only [isOneLine_append, isOneLine_toString, and_true]
    and_intros <;> exact isOneLine_literal rfl
  · simp only [isOneLine_append, isOneLine_toString, and_true]
    exact isOneLine_literal rfl

/-- A cause without line ends is told in one line. -/
theorem Cause.isOneLine_message
    {cause : Cause}
    (plain : cause.IsOneLine)
    (value : Json) :
    Text.IsOneLine (cause.message value) := by
  have shown := value.isOneLine_compact
  unfold Cause.message
  cases cause with
  | wrongType kinds =>
      have list := isOneLine_kindList kinds
      rcases kinds with _ | ⟨kind, _ | ⟨next, rest⟩⟩
      · simp only [isOneLine_append, shown, list, true_and, and_true]
        exact isOneLine_literal rfl
      · simp only [isOneLine_append, shown, isOneLine_name, true_and, and_true]
        and_intros <;> exact isOneLine_literal rfl
      · simp only [isOneLine_append, shown, list, true_and, and_true]
        exact isOneLine_literal rfl
  | missingMember name =>
      simp only [isOneLine_append, Json.isOneLine_quote, true_and]
      exact isOneLine_literal rfl
  | unexpectedMembers names =>
      have list := isOneLine_nameList plain
      simp only [isOneLine_append, list, and_true]
      refine ⟨isOneLine_literal rfl, ?_⟩
      split <;> exact isOneLine_literal rfl
  | fewItems least =>
      simp only [isOneLine_append, isOneLine_toString, shown,
        true_and, and_true]
      refine ⟨isOneLine_literal rfl, ?_⟩
      split <;> exact isOneLine_literal rfl
  | repeatedItems =>
      simp only [isOneLine_append, shown, true_and]
      exact isOneLine_literal rfl
  | mismatch pattern =>
      have source : Text.IsOneLine pattern := plain
      simp only [isOneLine_append, shown, source, true_and, and_true]
      and_intros <;> exact isOneLine_literal rfl
  | undecided failure =>
      have named : Text.IsOneLine failure.message := by
        cases failure <;> exact isOneLine_literal rfl
      simp only [isOneLine_append, named, and_true]
      exact isOneLine_literal rfl
  | belowMinimum least =>
      simp only [isOneLine_append, isOneLine_toString_int, shown,
        true_and, and_true]
      exact isOneLine_literal rfl
  | notListed values =>
      simp only [isOneLine_append, Json.isOneLine_compact, true_and, and_true]
      exact isOneLine_literal rfl
  | otherForm form =>
      have named : Text.IsOneLine form.name := by
        cases form <;> exact isOneLine_literal rfl
      simp only [isOneLine_append, shown, named, true_and, and_true]
      and_intros <;> exact isOneLine_literal rfl
  | forbidden part =>
      simp only [isOneLine_append, Json.isOneLine_compact, and_true]
      exact isOneLine_literal rfl
  | matchesNone keyword =>
      have named : Text.IsOneLine keyword := plain
      simp only [isOneLine_append, shown, named, true_and, and_true]
      and_intros <;> exact isOneLine_literal rfl
  | matchesSeveral =>
      simp only [isOneLine_append, shown, true_and]
      and_intros <;> exact isOneLine_literal rfl
  | unknownReference address =>
      have named : Text.IsOneLine address := plain
      simp only [isOneLine_append, named, and_true]
      exact isOneLine_literal rfl
  | foreignReference address =>
      have named : Text.IsOneLine address := plain
      simp only [isOneLine_append, named, and_true]
      and_intros <;> exact isOneLine_literal rfl
  | brokenReference fault => exact isOneLine_encodingFault fault

theorem isOneLine_pointerStep
    {step : String}
    (plain : Text.IsOneLine step) :
    Text.IsOneLine (pointerStep step) := by
  rw [pointerStep, isOneLine_ofList, List.mem_flatMap]
  rintro ⟨character, member, isFeed⟩
  split_ifs at isFeed
  · exact absurd isFeed (by decide)
  · exact absurd isFeed (by decide)
  · rw [← List.mem_singleton.mp isFeed] at member
    exact plain member

/-- A pointer stands in one line if its steps do. -/
theorem isOneLine_pointer
    {location : List String}
    (each : ∀ step ∈ location, Text.IsOneLine step) :
    Text.IsOneLine (pointer location) := by
  induction location with
  | nil => exact isOneLine_literal rfl
  | cons step rest inductionHypothesis =>
      rw [List.forall_mem_cons] at each
      have first := isOneLine_pointerStep each.1
      have later := inductionHypothesis each.2
      unfold pointer at later ⊢
      rw [List.map_cons, String.join_cons]
      simp only [isOneLine_append, first, later, and_true]
      exact isOneLine_literal rfl

/-- A violation without line ends is told in one line. -/
theorem Violation.IsOneLine.isOneLine_message
    {violation : Violation}
    (plain : violation.IsOneLine) :
    Text.IsOneLine violation.message := by
  have wording := Cause.isOneLine_message plain.cause violation.value
  unfold Violation.message
  split
  · exact wording
  · simp only [isOneLine_append, isOneLine_pointer plain.location,
      Violation.text, wording, true_and, and_true]
    exact isOneLine_literal rfl

/-! Checks. -/

/-- A checker that says what is wrong with values of one line in one line. -/
def ChecksInOneLine (check : Checker) : Prop :=
  ∀ schema location value,
    schema.IsOneLine → (∀ step ∈ location, Text.IsOneLine step) →
    value.IsOneLine → ∀ violation ∈ check schema location value,
      violation.IsOneLine

/-- A schema that is found among schemas without line ends has none. -/
theorem isOneLine_of_lookup
    {members : List (String × Schema)}
    (each : ∀ member ∈ members, member.2.IsOneLine)
    (name : String) :
    ∀ schema ∈ members.lookup name, schema.IsOneLine := by
  intro schema found
  obtain ⟨front, back, rfl, -⟩ := List.lookup_eq_some_iff.mp found
  exact each _ (List.mem_append_right _ List.mem_cons_self)

section

variable {check : Checker} {location : List String}

/-- The violations of a member are told in one line each. -/
theorem memberViolations_isOneLine
    (checks : ChecksInOneLine check)
    (steps : ∀ step ∈ location, Text.IsOneLine step)
    {schema : Option Schema}
    (shown : ∀ found ∈ schema, found.IsOneLine)
    {member : String × Json}
    (named : Text.IsOneLine member.1)
    (plain : member.2.IsOneLine) :
    ∀ violation ∈ memberViolations check schema location member,
      violation.IsOneLine := by
  cases schema with
  | none => exact List.forall_mem_nil _
  | some found =>
      refine checks found _ _ (shown found rfl) ?_ plain
      rw [List.forall_mem_append, List.forall_mem_singleton]
      exact ⟨steps, named⟩

/-- The violations of items are told in one line each. -/
theorem itemViolations_isOneLine
    (checks : ChecksInOneLine check)
    (steps : ∀ step ∈ location, Text.IsOneLine step)
    {schema : Schema}
    (shown : schema.IsOneLine)
    (index : Nat)
    {items : List Json}
    (each : ∀ item ∈ items, item.IsOneLine) :
    ∀ violation ∈ itemViolations check schema location index items,
      violation.IsOneLine := by
  induction items generalizing index with
  | nil => exact List.forall_mem_nil _
  | cons item rest inductionHypothesis =>
      rw [List.forall_mem_cons] at each
      rw [itemViolations, List.forall_mem_append]
      refine ⟨checks schema _ item shown ?_ each.1,
        inductionHypothesis (index + 1) each.2⟩
      rw [List.forall_mem_append, List.forall_mem_singleton]
      exact ⟨steps, isOneLine_toString index⟩

/--
What a keyword finds wrong with a value of one line is worded in one line.
-/
theorem keyword_violations_isOneLine
    (checks : ChecksInOneLine check)
    (steps : ∀ step ∈ location, Text.IsOneLine step)
    {value : Json}
    (plain : value.IsOneLine)
    {keyword : Keyword}
    (shown : keyword.IsOneLine) :
    ∀ violation ∈ keyword.violations check location value,
      violation.IsOneLine := by
  have here {cause : Cause} {found : Json} (fine : cause.IsOneLine) :
      ∀ violation ∈ [Violation.mk location found cause], violation.IsOneLine :=
    List.forall_mem_singleton.mpr ⟨steps, fine⟩
  cases shown with
  | type kinds =>
      simp only [Keyword.violations]
      split
      · exact List.forall_mem_nil _
      · exact here trivial
  | required names =>
      simp only [Keyword.violations]
      split
      · rw [List.forall_mem_map]
        exact fun _ _ => ⟨steps, trivial⟩
      · exact List.forall_mem_nil _
  | properties each =>
      simp only [Keyword.violations]
      cases plain with
      | object names values =>
          rw [List.forall_mem_flatMap]
          exact fun member inside => memberViolations_isOneLine checks steps
            (isOneLine_of_lookup each member.1) (names member inside)
            (values member inside)
      | _ => exact List.forall_mem_nil _
  | closedProperties each =>
      simp only [Keyword.violations]
      cases plain with
      | object names values =>
          rw [List.forall_mem_append, List.forall_mem_flatMap]
          constructor
          · exact fun member inside => memberViolations_isOneLine checks steps
              (isOneLine_of_lookup each member.1) (names member inside)
              (values member inside)
          · split
            · exact List.forall_mem_nil _
            · refine here ?_
              intro name unexpected
              obtain ⟨member, inside, rfl⟩ :=
                List.mem_map.mp (List.mem_of_mem_filter unexpected)
              exact names member inside
      | _ => exact List.forall_mem_nil _
  | noProperties =>
      simp only [Keyword.violations]
      split
      · exact here trivial
      · exact List.forall_mem_nil _
  | openProperties each other =>
      simp only [Keyword.violations]
      cases plain with
      | object names values =>
          rw [List.forall_mem_flatMap]
          refine fun member inside => memberViolations_isOneLine checks steps ?_
            (names member inside) (values member inside)
          intro schema isSchema
          cases isSchema
          have known := isOneLine_of_lookup each member.1
          cases found : List.lookup member.1 _ with
          | none => exact other
          | some schema => exact known schema found
      | _ => exact List.forall_mem_nil _
  | items each =>
      simp only [Keyword.violations]
      cases plain with
      | array elements =>
          exact itemViolations_isOneLine checks steps each 0 elements
      | _ => exact List.forall_mem_nil _
  | minItems count =>
      simp only [Keyword.violations]
      split
      · split
        · exact here trivial
        · exact List.forall_mem_nil _
      · exact List.forall_mem_nil _
  | uniqueItems =>
      simp only [Keyword.violations]
      split
      · split
        · exact List.forall_mem_nil _
        · exact here trivial
      · exact List.forall_mem_nil _
  | pattern source =>
      simp only [Keyword.violations]
      split
      · split
        · exact List.forall_mem_nil _
        · exact here source
        · exact here trivial
      · exact List.forall_mem_nil _
  | minimum least =>
      simp only [Keyword.violations]
      split
      · exact here trivial
      · exact List.forall_mem_nil _
  | enumeration values =>
      simp only [Keyword.violations]
      split
      · split
        · exact List.forall_mem_nil _
        · exact here trivial
      · exact here trivial
  | format form =>
      simp only [Keyword.violations]
      split
      · split
        · exact List.forall_mem_nil _
        · exact here trivial
      · exact List.forall_mem_nil _
  | allOf each =>
      simp only [Keyword.violations, List.forall_mem_flatMap]
      exact fun schema inside =>
        checks schema location value (each schema inside) steps plain
  | anyOf schemas =>
      simp only [Keyword.violations]
      split
      · exact List.forall_mem_nil _
      · exact here (isOneLine_literal rfl)
  | oneOf schemas =>
      simp only [Keyword.violations]
      split
      · exact here (isOneLine_literal rfl)
      · exact List.forall_mem_nil _
      · exact here trivial

end

/--
What a reference leads to is shown in one line, also where it leads nowhere.
-/
theorem target_isOneLine
    {document : Document}
    (plain : document.IsOneLine)
    {name : String}
    (named : Text.IsOneLine name) :
    (∀ schema, document.target name = .ok schema → schema.IsOneLine) ∧
      ∀ violation, document.target name = .error violation →
        violation.IsOneLine := by
  rw [Document.target]
  cases found : document.targets.lookup name with
  | none =>
      constructor
      · intro schema isTarget
        cases isTarget
      · intro violation isFault
        cases isFault
        exact ⟨List.forall_mem_nil _, named⟩
  | some target =>
      obtain ⟨front, back, form, -⟩ := List.lookup_eq_some_iff.mp found
      have member : (name, target) ∈ document.targets := by simp [form]
      constructor
      · rintro schema rfl
        exact plain.targets name schema member
      · rintro violation rfl
        exact plain.faults name violation member

/--
A document of one line checks values of one line in one line,
however deep it looks.
-/
theorem checksInOneLine_violationsWithin
    {document : Document}
    (plain : document.IsOneLine)
    (budget : Nat) :
    ChecksInOneLine (document.violationsWithin budget) := by
  induction budget with
  | zero =>
      intro schema location value _ _ _
      exact List.forall_mem_nil _
  | succ budget inductionHypothesis =>
      intro schema location value shown steps fine
      cases shown with
      | always => exact List.forall_mem_nil _
      | never => exact List.forall_mem_singleton.mpr ⟨steps, trivial⟩
      | @reference name named =>
          obtain ⟨known, unknown⟩ := target_isOneLine plain named
          simp only [Document.violationsWithin]
          split
          · next target isTarget =>
              exact inductionHypothesis target location value
                (known target isTarget) steps fine
          · next violation isFault =>
              exact List.forall_mem_singleton.mpr (unknown violation isFault)
      | keywords each =>
          simp only [Document.violationsWithin, List.forall_mem_flatMap]
          exact fun keyword member =>
            keyword_violations_isOneLine inductionHypothesis steps fine
              (each keyword member)

/-- The violations of a document without line ends are told in one line each. -/
theorem violations_isOneLine
    {document : Document}
    (plain : document.IsOneLine)
    {value : Json}
    (fine : value.IsOneLine) :
    ∀ violation ∈ document.violations value,
      Text.IsOneLine violation.message := by
  intro violation member
  have checked := checksInOneLine_violationsWithin plain (document.budget value)
  exact (checked _ [] value plain.root
    (List.forall_mem_nil _) fine violation member).isOneLine_message

end Schema

end Eisen
