import Eisen.Json.Reader
import Eisen.Proofs.Json.Lexemes
import Eisen.Proofs.Json.Sorted
import Eisen.Schema.Basic
import Mathlib.Data.List.Forall2

namespace Eisen.Json

/-!
# Written values read back

The indented text of a value is read as the value with the members of its
objects sorted by name. This holds of every value whose integers have 64 bits,
whose real numbers are read back one by one, and which is not nested too deeply.
-/

/-- A value that keeps its numbers when it is written and read. -/
inductive Writable : Json → Prop where
  | null : Writable .null
  | bool (value : Bool) : Writable (.bool value)
  | text (value : String) : Writable (.text value)
  | integer {value : Int} (exact : IsExact value) : Writable (.integer value)
  | real {value : Binary64} (canonical : value.IsCanonical)
      (readsBack :
        read (realText value) = .ok (.real value)) : Writable (.real value)
  | array {items : List Json} (writable : ∀ item ∈ items, Writable item) :
      Writable (.array items)
  | object {members : List (String × Json)}
    (writable : ∀ member ∈ members, Writable member.2) :
      Writable (.object members)

/-- The items of a list are written one by one. -/
theorem indentedItems_eq_map
    (depth : Nat)
    (items : List Json) :
    indentedItems depth items = items.map (indentedAt depth) := by
  induction items with
  | nil => rfl
  | cons item rest inductionHypothesis =>
      rw [indentedItems, inductionHypothesis, List.map_cons]

/-- The members of an object are written one by one. -/
theorem indentedMembers_eq_map
    (depth : Nat)
    (members : List (String × Json)) :
    indentedMembers depth members =
      members.map fun member =>
        quote member.1 ++ ": " ++ indentedAt depth member.2 := by
  induction members with
  | nil => rfl
  | cons member rest inductionHypothesis =>
    obtain ⟨name, value⟩ := member
    rw [indentedMembers, inductionHypothesis, List.map_cons]

/-- The items of a list are no deeper than a bound if each of them is not. -/
theorem itemDepth_le_iff
    {items : List Json}
    {bound : Nat} :
    itemDepth items ≤ bound ↔ ∀ item ∈ items, item.depth ≤ bound := by
  induction items with
  | nil => simp [itemDepth]
  | cons item rest inductionHypothesis =>
    rw [itemDepth, Nat.max_le, inductionHypothesis, List.forall_mem_cons]

/--
The members of an object are no deeper than a bound if each of them is not.
-/
theorem memberDepth_le_iff
    {members : List (String × Json)}
    {bound : Nat} :
    memberDepth members ≤ bound ↔
      ∀ member ∈ members, member.2.depth ≤ bound := by
  induction members with
  | nil => simp [memberDepth]
  | cons member rest inductionHypothesis =>
    obtain ⟨name, value⟩ := member
    rw [memberDepth, Nat.max_le, inductionHypothesis, List.forall_mem_cons]

/-! Texts that take the reader from one state to another. -/

/-- A text takes the reader from a state to another one, whatever follows it. -/
def Leads
    (text : List Char)
    (state next : State) : Prop :=
  ∀ (final place : Place) (rest : List Text.Symbol),
    EndsNumber rest →
      ∃ behind,
        run final state (tokensFrom .whole place (text.map some ++ rest)) =
          run final next (tokensFrom .whole behind rest)

/-- A text that may stand behind a number. -/
def StartsFresh (text : List Char) : Prop :=
  ∀ rest, EndsNumber rest → EndsNumber (text.map some ++ rest)

theorem startsFresh_cons
    {first : Char}
    (fresh : EndsNumber [some first])
    (more : List Char) :
    StartsFresh (first :: more) :=
  fun _ _ => fresh

namespace Leads

theorem refl (state : State) : Leads [] state state :=
  fun _ place _ _ => ⟨place, rfl⟩

/-- Two texts lead on one behind the other, unless they would run together. -/
theorem append
    {left right : List Char}
    {state middle next : State}
    (first : Leads left state middle)
    (second : Leads right middle next)
    (fresh : StartsFresh right) :
    Leads (left ++ right) state next := by
  intro final place rest ends
  obtain ⟨between, toMiddle⟩ :=
    first final place (right.map some ++ rest) (fresh rest ends)
  obtain ⟨behind, toNext⟩ := second final between rest ends
  refine ⟨behind, ?_⟩
  rw [List.map_append, List.append_assoc, toMiddle, toNext]

/-- Blanks in front of a text change nothing. -/
theorem gap
    {blanks text : List Char}
    {state next : State}
    (areGaps : ∀ blank ∈ blanks, isGap blank = true)
    (leads : Leads text state next) :
    Leads (blanks ++ text) state next := by
  intro final place rest ends
  induction blanks generalizing place with
  | nil => exact leads final place rest ends
  | cons blank more inductionHypothesis =>
    obtain ⟨behind, reached⟩ :=
      inductionHypothesis (fun other member => areGaps other (by simp [member]))
        (place.after (some blank))
    refine ⟨behind, ?_⟩
    rw [← reached, List.cons_append, List.map_cons, List.cons_append,
      tokensFrom, if_pos (areGaps blank (by simp))]

/-- A lexeme makes the step that all its tokens make. -/
theorem of_spells
    {text : List Char}
    {lexeme : Lexeme}
    {state next : State}
    (spells : Spells text lexeme)
    (stepped :
      ∀ token : Token, token.lexeme = lexeme → step state token = .ok next) :
    Leads text state next := by
  intro final place rest ends
  obtain ⟨token, behind, isLexeme, tokens⟩ := spells place rest ends
  refine ⟨behind, ?_⟩
  rw [tokens, run, stepped token isLexeme]

end Leads

/-! States in which a value is due. -/

/-- A value is due that goes into the frames. -/
inductive Awaits : State → List Frame → Prop where
  | value (frames : List Frame) : Awaits (.value frames) frames
  | listStart (frames : List Frame) : Awaits (.listStart frames)
    (.list [] :: frames)
  | item (items : List Json) (frames : List Frame) :
      Awaits (.item items frames) (.list items :: frames)

/-- Where a value is due, any token but the end of a list begins one. -/
theorem Awaits.step_eq
    {state : State}
    {frames : List Frame}
    (awaits : Awaits state frames)
    {token : Token}
    (noEnd : token.lexeme ≠ .closeBracket) :
    step state token = beginValue token frames := by
  cases awaits with
  | value => rfl
  | listStart frames =>
    simp only [step]
  | item items frames =>
    simp only [step]

/-- A text is read as a value of at most some height wherever a value is due. -/
def ReadsAs
    (text : List Char)
    (height : Nat)
    (value : Json) : Prop :=
  ∀ {state : State} {frames : List Frame},
    Awaits state frames →
      frames.length + height ≤ depthLimit →
        Leads text state (completed value frames)

theorem ReadsAs.mono
    {text : List Char}
    {height higher : Nat}
    {value : Json}
    (reads : ReadsAs text height value)
    (below : height ≤ higher) :
    ReadsAs text higher value :=
  fun awaits room => reads awaits (by omega)

/-- A scalar reads as itself. -/
theorem readsAs_scalar
    {text : List Char}
    {value : Json}
    (spells : Spells text (.scalar value)) :
    ReadsAs text 0 value := by
  intro state frames awaits _
  refine Leads.of_spells spells fun token isLexeme => ?_
  rw [awaits.step_eq (by simp [isLexeme]), beginValue, isLexeme]

/-- A quoted text reads as itself. -/
theorem readsAs_text
    {text : List Char}
    {value : String}
    (spells : Spells text (.text value)) :
    ReadsAs text 0 (.text value) := by
  intro state frames awaits _
  refine Leads.of_spells spells fun token isLexeme => ?_
  rw [awaits.step_eq (by simp [isLexeme]), beginValue, isLexeme]

/-! Lists and objects. -/

/-- The parts of a bracketed text behind the first one. -/
def furtherParts
    (separator : List Char)
    (parts : List (List Char)) : List Char :=
  parts.flatMap (separator ++ ·)

/-- Behind the first part, every part has a separator in front. -/
theorem intercalate_cons_eq
    (separator part : List Char)
    (parts : List (List Char)) :
    separator.intercalate (part :: parts) =
      part ++ furtherParts separator parts := by
  induction parts generalizing part with
  | nil => simp [furtherParts]
  | cons next rest inductionHypothesis =>
    rw [List.intercalate_cons_cons, inductionHypothesis]
    simp [furtherParts, List.append_assoc]

theorem isGap_of_mem_lineStart
    {depth : Nat}
    {blank : Char}
    (member : blank ∈ (lineStart depth).toList) :
    isGap blank = true := by
  rw [lineStart, String.toList_ofList, List.mem_cons] at member
  rcases member with rfl | member
  · rfl
  · rw [List.eq_of_mem_replicate member]
    rfl

theorem startsFresh_lineStart
    (depth : Nat)
    (more : List Char) :
    StartsFresh ((lineStart depth).toList ++ more) := by
  rw [lineStart, String.toList_ofList, List.cons_append]
  exact startsFresh_cons (by simp [EndsNumber]) _

/-- The text of brackets around at least one part. -/
theorem toList_bracketed_cons
    (opening closing : String)
    (depth : Nat)
    (part : String)
    (parts : List String) :
    (bracketed opening closing depth (part :: parts)).toList =
      opening.toList ++ ((lineStart (depth + 1)).toList ++ part.toList) ++
        furtherParts (',' :: (lineStart (depth + 1)).toList)
          (parts.map String.toList) ++
        ((lineStart depth).toList ++ closing.toList) := by
  have comma : ",".toList = [','] := rfl
  simp only [bracketed, List.isEmpty_cons, Bool.false_eq_true, if_false,
    String.toList_append, String.toList_intercalate, List.map_cons,
    intercalate_cons_eq, List.append_assoc]
  rw [comma, List.singleton_append]

section Brackets

variable {frames : List Frame} {height : Nat}

/-- A comma ends a number. -/
theorem startsFresh_furtherParts
    (separator : List Char)
    (parts : List (List Char)) :
    StartsFresh (furtherParts (',' :: separator) parts) := by
  cases parts with
  | nil => exact fun _ ends => ends
  | cons part rest => exact startsFresh_cons (by simp [EndsNumber]) _

/-- Further items go behind those that have been read. -/
theorem leads_furtherItems
    {parts : List (List Char)}
    {values : List Json}
    (reads :
      List.Forall₂ (fun part value => ReadsAs part height value) parts values)
    (room : frames.length + 1 + height ≤ depthLimit)
    (depth : Nat)
    (items : List Json) :
    Leads (furtherParts (',' :: (lineStart depth).toList) parts)
      (.listNext items frames)
      (.listNext (values.reverse ++ items) frames) := by
  induction reads generalizing items with
  | nil => exact Leads.refl _
  | @cons part value parts values first rest inductionHypothesis =>
    have comma : Leads [','] (.listNext items frames) (.item items frames) :=
      Leads.of_spells spells_comma fun token isComma => by
        simp only [step, isComma]
    have item :
        Leads part (.item items frames) (.listNext (value :: items) frames) :=
      first (.item items frames)
        (by simpa [Nat.add_comm, Nat.add_left_comm] using room)
    have later := inductionHypothesis (value :: items)
    have step :=
      (comma.append (Leads.gap (fun _ => isGap_of_mem_lineStart) item)
        (startsFresh_lineStart depth part)).append later
        (startsFresh_furtherParts _ parts)
    simpa [furtherParts] using step

/-- Brackets around at least one part are read from the left to the right. -/
theorem leads_bracketed
    {opening closing : String}
    {depth : Nat}
    {part : String}
    {parts : List String}
    {state opened first last done : State}
    (opens : Leads opening.toList state opened)
    (firstPart : Leads part.toList opened first)
    (later : Leads
      (furtherParts (',' :: (lineStart (depth + 1)).toList)
          (parts.map String.toList)) first last)
    (closes : Leads closing.toList last done) :
    Leads (bracketed opening closing depth (part :: parts)).toList
      state done := by
  have start :=
    opens.append (Leads.gap (fun _ => isGap_of_mem_lineStart) firstPart)
    (startsFresh_lineStart (depth + 1) part.toList)
  have body := start.append later (startsFresh_furtherParts _ _)
  rw [toList_bracketed_cons]
  exact body.append (Leads.gap (fun _ => isGap_of_mem_lineStart) closes)
    (startsFresh_lineStart depth closing.toList)

/-- A written list is read as the list of its items. -/
theorem readsAs_list
    {parts : List String}
    {values : List Json}
    (depth : Nat)
    (reads :
      List.Forall₂ (fun part value => ReadsAs part.toList height value)
        parts values) :
    ReadsAs (bracketed "[" "]" depth parts).toList (1 + height)
      (.array values) := by
  intro state frames awaits room
  have opening : Leads ['['] state (.listStart frames) :=
    Leads.of_spells spells_openBracket fun token isOpening => by
      rw [awaits.step_eq (by simp [isOpening]), beginValue, isOpening]
      simp only [opened]
      rw [if_neg (by omega)]
  cases reads with
  | nil =>
    have closing :
        Leads [']'] (.listStart frames) (completed (.array []) frames) :=
      Leads.of_spells spells_closeBracket fun token isClosing => by
        simp only [step, isClosing]
    have empty : (bracketed "[" "]" depth []).toList = ['['] ++ [']'] := by
      simp [bracketed]
    rw [empty]
    exact opening.append closing (startsFresh_cons (by simp [EndsNumber]) _)
  | @cons part value parts values first rest =>
    have item :
        Leads part.toList (.listStart frames) (.listNext [value] frames) :=
      first (.listStart frames)
        (by simpa [Nat.add_comm, Nat.add_left_comm] using room)
    have later := leads_furtherItems (List.forall₂_map_left_iff.2 rest)
      (by omega : frames.length + 1 + height ≤ depthLimit) (depth + 1) [value]
    have closing : Leads [']'] (.listNext (values.reverse ++ [value]) frames)
        (completed (.array (value :: values)) frames) :=
      Leads.of_spells spells_closeBracket fun token isClosing => by
        simp only [step, isClosing]
        simp
    exact leads_bracketed opening item later closing

/-- The text of a member. -/
def memberText
    (name : String)
    (part : List Char) : List Char :=
  (quote name).toList ++ ([':'] ++ (' ' :: part))

/-- A member is set in the object whose key is due. -/
theorem leads_member
    {name : String}
    {part : List Char}
    {value : Json}
    {state : State}
    {members : List (String × Json)}
    (reads : ReadsAs part height value)
    (room : frames.length + 1 + height ≤ depthLimit)
    (keyDue : ∀ token : Token,
      token.lexeme = .text name →
        step state token = .ok (.colon members name frames)) :
    Leads (memberText name part) state
      (.objectNext (setMember name value members) frames) := by
  have key : Leads (quote name).toList state (.colon members name frames) :=
    Leads.of_spells (spells_quote name) keyDue
  have colon :
      Leads [':'] (.colon members name frames)
        (.value (.member members name :: frames)) :=
    Leads.of_spells spells_colon fun token isColon => by
      simp only [step, isColon]
  have content : Leads part (.value (.member members name :: frames))
      (.objectNext (setMember name value members) frames) :=
    reads (.value _) (by simpa [Nat.add_comm, Nat.add_left_comm] using room)
  have blank : Leads (' ' :: part) (.value (.member members name :: frames))
      (.objectNext (setMember name value members) frames) :=
    Leads.gap (show ∀ blank ∈ [' '], isGap blank = true by simp [isGap]) content
  exact key.append
    (colon.append blank (startsFresh_cons (by simp [EndsNumber]) _))
    (startsFresh_cons (by simp [EndsNumber]) _)

/--
A member of a written object, with the text and the value of what it holds.
-/
structure WrittenMember where
  name : String
  part : List Char
  value : Json

/-- Members set one after the other. -/
def setMembers
    (members : List (String × Json))
    (written : List WrittenMember) : List (String × Json) :=
  written.foldl
    (fun earlier member => setMember member.name member.value earlier) members

/-- Further members are set behind those that have been read. -/
theorem leads_furtherMembers
    {written : List WrittenMember}
    (reads : ∀ member ∈ written, ReadsAs member.part height member.value)
    (room : frames.length + 1 + height ≤ depthLimit)
    (depth : Nat)
    (members : List (String × Json)) :
    Leads
      (furtherParts (',' :: (lineStart depth).toList)
        (written.map fun member => memberText member.name member.part))
      (.objectNext members frames)
        (.objectNext (setMembers members written) frames) := by
  induction written generalizing members with
  | nil => exact Leads.refl _
  | cons first rest inductionHypothesis =>
    have comma :
        Leads [','] (.objectNext members frames) (.key members frames) :=
      Leads.of_spells spells_comma fun token isComma => by
        simp only [step, isComma]
    have member := leads_member (reads first (by simp)) room
      (fun token isKey => by simp only [step, isKey, beginMember] :
        ∀ token : Token, token.lexeme = .text first.name →
          step (.key members frames) token =
            .ok (.colon members first.name frames))
    have later :=
      inductionHypothesis (fun other inRest => reads other (by simp [inRest]))
      (setMember first.name first.value members)
    have step :=
      (comma.append (Leads.gap (fun _ => isGap_of_mem_lineStart) member)
        (startsFresh_lineStart depth _)).append later
        (startsFresh_furtherParts _ _)
    simpa [furtherParts, setMembers] using step

/-- A written object is read as the members set one after the other. -/
theorem readsAs_object
    {written : List WrittenMember}
    {parts : List String}
    (depth : Nat)
    (texts : parts.map String.toList =
      written.map fun member => memberText member.name member.part)
    (reads : ∀ member ∈ written, ReadsAs member.part height member.value) :
    ReadsAs (bracketed "\x7b" "\x7d" depth parts).toList (1 + height)
      (.object (setMembers [] written)) := by
  intro state frames awaits room
  have opening : Leads ['\x7b'] state (.objectStart frames) :=
    Leads.of_spells spells_openBrace fun token isOpening => by
      rw [awaits.step_eq (by simp [isOpening]), beginValue, isOpening]
      simp only [opened]
      rw [if_neg (by omega)]
  cases written with
  | nil =>
    obtain rfl : parts = [] := by simpa using texts
    have closing :
        Leads ['\x7d'] (.objectStart frames) (completed (.object []) frames) :=
      Leads.of_spells spells_closeBrace fun token isClosing => by
        simp only [step, isClosing]
    have empty :
        (bracketed "\x7b" "\x7d" depth []).toList = ['\x7b'] ++ ['\x7d'] := by
      simp [bracketed]
    rw [empty]
    exact opening.append closing (startsFresh_cons (by simp [EndsNumber]) _)
  | cons first rest =>
    cases parts with
    | nil => cases texts
    | cons part parts =>
      obtain ⟨isFirst, areRest⟩ : part.toList =
          memberText first.name first.part ∧
          parts.map String.toList =
            rest.map fun member => memberText member.name member.part := by
        simpa using texts
      have room' : frames.length + 1 + height ≤ depthLimit := by omega
      have member := leads_member (reads first (by simp)) room'
        (fun token isKey => by simp only [step, isKey, beginMember] :
          ∀ token : Token, token.lexeme = .text first.name →
            step (.objectStart frames) token =
              .ok (.colon [] first.name frames))
      have restReads :
          ∀ member ∈ rest, ReadsAs member.part height member.value :=
        fun other inRest => reads other (by simp [inRest])
      have later := leads_furtherMembers restReads room' (depth + 1)
        (setMember first.name first.value [])
      have closing : Leads ['\x7d']
          (.objectNext
            (setMembers (setMember first.name first.value []) rest) frames)
          (completed (.object (setMembers [] (first :: rest))) frames) :=
        Leads.of_spells spells_closeBrace fun token isClosing => by
          simp only [step, isClosing]
          rfl
      rw [← isFirst] at member
      rw [← areRest] at later
      exact leads_bracketed opening member later closing

end Brackets

/-- Sorted members are set one by one. -/
theorem sortedMembers_eq_setMembers
    (part : Json → List Char)
    (earlier members : List (String × Json)) :
    sortedMembers earlier members =
      setMembers earlier
        (members.map fun member =>
          ⟨member.1, part member.2, member.2.sorted⟩) := by
  induction members generalizing earlier with
  | nil => simp [sortedMembers, setMembers]
  | cons member rest inductionHypothesis =>
    obtain ⟨name, value⟩ := member
    rw [sortedMembers, inductionHypothesis]
    rfl

/-! Real numbers. -/

/-- The characters of the texts of numbers. -/
def IsNumeric (symbol : Char) : Prop :=
  symbol.isDigit = true ∨ symbol = '.' ∨ symbol = 'e' ∨ symbol = '+' ∨
    symbol = '-'

theorem IsNumeric.noGap
    {symbol : Char}
    (numeric : IsNumeric symbol) :
    isGap symbol = false := by
  rcases numeric with digit | rfl | rfl | rfl | rfl
  · exact isGap_eq_false_of_starts (.inr digit)
  · rfl
  · rfl
  · rfl
  · rfl

/-- A number in positions consists of the signs of numbers. -/
theorem isNumeric_of_mem_positional
    {number : Digits}
    (digits : ∀ symbol ∈ number.digits, symbol.isDigit = true)
    {symbol : Char}
    (member : symbol ∈ number.positional) :
    IsNumeric symbol := by
  simp only [Digits.positional] at member
  split_ifs at member
  · simp only [List.mem_cons, List.mem_append] at member
    rcases member with rfl | rfl | zero | digit
    · exact .inl rfl
    · exact .inr (.inl rfl)
    · exact .inl (Digits.isDigit_of_mem_zeros zero)
    · exact .inl (digits symbol digit)
  · rcases List.mem_append.1 member with digit | zero
    · exact .inl (digits symbol digit)
    · exact .inl (Digits.isDigit_of_mem_zeros zero)
  · simp only [List.mem_cons, List.mem_append] at member
    rcases member with digit | rfl | digit
    · exact .inl (digits symbol (List.mem_of_mem_take digit))
    · exact .inr (.inl rfl)
    · exact .inl (digits symbol (List.mem_of_mem_drop digit))

/-- A number with an exponent consists of the signs of numbers. -/
theorem isNumeric_of_mem_scientific
    {number : Digits}
    (digits : ∀ symbol ∈ number.digits, symbol.isDigit = true)
    {symbol : Char}
    (member : symbol ∈ number.scientific) :
    IsNumeric symbol := by
  simp only [Digits.scientific, List.mem_append, List.mem_cons] at member
  rcases member with (digit | point) | rfl | sign | digit
  · exact .inl (digits symbol (List.mem_of_mem_take digit))
  · split_ifs at point
    · cases point
    · rcases List.mem_cons.1 point with rfl | digit
      · exact .inr (.inl rfl)
      · exact .inl (digits symbol (List.mem_of_mem_drop digit))
  · exact .inr (.inr (.inl rfl))
  · split_ifs at sign
    · exact .inr (.inr (.inr (.inr sign)))
    · exact .inr (.inr (.inr (.inl sign)))
  · exact .inl (Nat.isDigit_of_mem_toDigits (by decide) (by decide) digit)

theorem head?_append_of_some
    {left : List Char}
    {first : Char}
    (isFirst : first ∈ left.head?)
    (right : List Char) :
    first ∈ (left ++ right).head? := by
  cases left with
  | nil => cases isFirst
  | cons symbol more => exact isFirst

/-- The text of a real number starts with a digit or a minus and has no gaps. -/
theorem realText_form
    {number : Binary64}
    (canonical : number.IsCanonical) :
    ∃ first more, (realText number).toList = first :: more ∧
      (first = '-' ∨ first.isDigit = true) ∧ ∀ symbol ∈ more,
        isGap symbol = false := by
  have digits :
      ∀ symbol ∈ (Digits.shortest .even number).digits, symbol.isDigit = true :=
    Digits.isDigit_of_mem_shortest
  have magnitude : ∃ magnitude : List Char,
      (realText number).toList =
        (if number.negative then '-' :: magnitude else magnitude) ∧
      (∃ first ∈ magnitude.head?, first.isDigit = true) ∧
      ∀ symbol ∈ magnitude, IsNumeric symbol := by
    refine ⟨_, by rw [realText, String.toList_ofList], ?_⟩
    by_cases isZero : number.mantissa = 0
    · rw [if_pos isZero]
      exact ⟨⟨'0', rfl, rfl⟩, by simp [IsNumeric]⟩
    · have nonempty := Digits.shortest_digits_ne_nil canonical (by omega) .even
      rw [if_neg isZero]
      simp only
      obtain ⟨first, rest, form⟩ := List.exists_cons_of_ne_nil nonempty
      split_ifs
      · exact ⟨Digits.head?_positional_isDigit nonempty digits,
          fun _ => isNumeric_of_mem_positional digits⟩
      · obtain ⟨head, isHead, digit⟩ :=
          Digits.head?_positional_isDigit nonempty digits
        refine ⟨⟨head, head?_append_of_some isHead _, digit⟩,
          fun symbol member => ?_⟩
        rcases List.mem_append.1 member with inPositional | inEnd
        · exact isNumeric_of_mem_positional digits inPositional
        · simp only [String.reduceToList, List.mem_cons, List.not_mem_nil,
            or_false] at inEnd
          rcases inEnd with rfl | rfl
          · exact .inr (.inl rfl)
          · exact .inl rfl
      · refine ⟨⟨first, by
            simp [Digits.scientific, form], digits first (by simp [form])⟩,
          fun _ => isNumeric_of_mem_scientific digits⟩
  obtain ⟨magnitude, isText, ⟨first, isFirst, digit⟩, numeric⟩ := magnitude
  cases magnitude with
  | nil => cases isFirst
  | cons symbol more =>
    cases isFirst
    rw [isText]
    split_ifs
    · exact ⟨_, _, rfl, .inl rfl,
        fun other member => (numeric other member).noGap⟩
    · exact ⟨_, _, rfl, .inr digit,
        fun other member => (numeric other (by simp [member])).noGap⟩

/-- Reading a number's text alone takes all of it. -/
theorem readNumber_of_read
    {first : Char}
    {more : List Char}
    {text : String}
    {value : Json}
    (form : text.toList = first :: more)
    (starts : first = '-' ∨ first.isDigit = true)
    (noGaps : ∀ symbol ∈ more, isGap symbol = false)
    (isRead : read text = .ok value) :
    ∃ length, length - 1 = more.length ∧
      readNumber .whole Place.start ((first :: more).map some) =
        .ok (value, length) := by
  simp only [read, readSymbols, Text.symbols, form, List.map_cons] at isRead
  rw [tokensFrom] at isRead
  simp only [isGap_eq_false_of_starts starts, Bool.false_eq_true, if_false,
    lexemeAt_number starts] at isRead
  rw [List.map_cons]
  cases number : readNumber .whole Place.start
    (some first :: more.map some) with
  | error fault => simp [number, run, step, beginValue] at isRead
  | ok found =>
    obtain ⟨found, length⟩ := found
    have bound := readNumber_length number
    simp only [number, run, step, beginValue, completed,
      ← List.map_drop] at isRead
    cases behind : more.drop (length - 1) with
    | nil =>
      have short : more.length ≤ length - 1 := List.drop_eq_nil_iff.1 behind
      simp only [behind, List.map_nil, tokensFrom, run, finish,
        Except.ok.injEq] at isRead
      subst isRead
      simp only [List.length_cons, List.length_map] at bound
      exact ⟨length, by omega, rfl⟩
    | cons next rest =>
      have noGap : isGap next = false :=
        noGaps next (List.mem_of_mem_drop
          (by rw [behind]; exact List.mem_cons_self))
      rw [behind, List.map_cons, tokensFrom] at isRead
      simp [noGap, run, step] at isRead

/-! Whole values. -/

/-- An indented value reads as the value with its members in order. -/
theorem readsAs_indentedAt
    {value : Json}
    (writable : value.Writable)
    (depth : Nat) :
    ReadsAs (indentedAt depth value).toList value.depth value.sorted := by
  induction writable generalizing depth with
  | null => exact readsAs_scalar spells_null
  | bool value => exact readsAs_scalar (spells_bool value)
  | text value => exact readsAs_text (spells_quote value)
  | integer exact => exact readsAs_scalar (spells_integer exact)
  | real canonical readsBack =>
    obtain ⟨first, more, form, starts, noGaps⟩ := realText_form canonical
    obtain ⟨length, whole, number⟩ :=
      readNumber_of_read form starts noGaps readsBack
    refine readsAs_scalar ?_
    rw [indentedAt, form]
    exact spells_number starts number whole
  | @array items writable inductionHypothesis =>
    rw [indentedAt, Json.depth, sorted, indentedItems_eq_map,
      sortedItems_eq_map]
    apply readsAs_list
    rw [List.forall₂_map_left_iff, List.forall₂_map_right_iff,
      List.forall₂_same]
    exact fun item member =>
      ReadsAs.mono (inductionHypothesis item member (depth + 1))
        (itemDepth_le_iff.1 (Nat.le_refl _) item member)
  | @object members writable inductionHypothesis =>
    rw [indentedAt, Json.depth, sorted, indentedMembers_eq_map,
      sortedMembers_eq_setMembers fun part =>
        (indentedAt (depth + 1) part).toList]
    apply readsAs_object
    · simp [memberText, List.map_map, Function.comp_def]
    · intro written inWritten
      obtain ⟨member, inMembers, rfl⟩ := List.mem_map.1 inWritten
      exact ReadsAs.mono (inductionHypothesis member inMembers (depth + 1))
        (memberDepth_le_iff.1 (Nat.le_refl _) member inMembers)

/-- The indented text of a value, with a line end, is read as the value. -/
theorem read_indented
    {value : Json}
    (writable : value.Writable)
    (shallow : value.depth ≤ depthLimit) :
    read (value.indented ++ "\n") = .ok value.sorted := by
  have leads :=
    readsAs_indentedAt writable 0 (Awaits.value []) (by simpa using shallow)
  have ends : EndsNumber [some '\n'] := by simp [EndsNumber]
  obtain ⟨behind, reached⟩ := leads
    (Place.start.afterAll (Text.symbols (value.indented ++ "\n"))) Place.start
      [some '\n'] ends
  have symbols : Text.symbols (value.indented ++ "\n") =
      (indentedAt 0 value).toList.map some ++ [some '\n'] := by
    simp [Text.symbols, indented]
  have lineEnd : tokensFrom .whole behind [some '\n'] = [] := by
    rw [tokensFrom, if_pos (by decide), tokensFrom]
  rw [read, readSymbols, symbols]
  rw [symbols] at reached
  rw [reached, lineEnd]
  rfl

end Eisen.Json
