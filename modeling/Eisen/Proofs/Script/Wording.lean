import Eisen.Proofs.Script.Covering
import Eisen.Proofs.Text.Lines

namespace Eisen.Script

/-!
# Faults of scripts are worded in one line

A message about a script shows parts of its text: a character, a lexeme, or the
name of a rule or of an operator. A script may hold line feeds, but no character
that starts nothing, no lexeme and no name is or holds one.

Readers hand on the tokens behind a phrase, so each reader leaves lexemes of one
line where it gets such lexemes.
-/

open Text

/-! Lexemes. -/

/-- The lexemes of all tokens are shown in one line. -/
def AreOneLine (tokens : List Token) : Prop :=
  ∀ token ∈ tokens, IsOneLine token.lexeme.describe

/-- A fault whose message is one line, or an answer of which something holds. -/
abbrev Reads
    {α : Type}
    (Holds : α → Prop) :
    Except Fault α → Prop :=
  FailsInOneLine Fault.message Holds

theorem AreOneLine.head
    {token : Token}
    {rest : List Token}
    (plain : AreOneLine (token :: rest)) :
    IsOneLine token.lexeme.describe :=
  plain token List.mem_cons_self

theorem AreOneLine.tail
    {token : Token}
    {rest : List Token}
    (plain : AreOneLine (token :: rest)) :
    AreOneLine rest :=
  fun other member => plain other (List.mem_cons_of_mem token member)

/-- The text of a word that is shown in one line has no line end. -/
theorem isOneLine_of_word
    {token : Token}
    {text : String}
    (isWord : token.lexeme = .word text)
    (plain : IsOneLine token.lexeme.describe) :
    IsOneLine text := by
  rw [isWord, Lexeme.describe, isOneLine_append, isOneLine_append] at plain
  exact plain.1.2

theorem isOneLine_describe_word
    {text : String}
    (plain : IsOneLine text) :
    IsOneLine (Lexeme.word text).describe := by
  simp only [Lexeme.describe, isOneLine_append, plain, and_true]
  and_intros <;> exact isOneLine_literal rfl

theorem isOneLine_describe_number
    {text : String}
    (plain : IsOneLine text) :
    IsOneLine (Lexeme.number text).describe := by
  simp only [Lexeme.describe, isOneLine_append, plain, and_true]
  and_intros <;> exact isOneLine_literal rfl

/-- A lexeme that is cut out of a source holds no line feed. -/
theorem Lexeme.IsCut.isOneLine
    {lexeme : Lexeme}
    {behind : List Char}
    (cut : lexeme.IsCut behind) :
    IsOneLine lexeme.describe := by
  cases cut with
  | @word first more _ letter others stops =>
      refine isOneLine_describe_word ((isOneLine_ofList _).mpr ?_)
      rw [List.mem_cons, not_or]
      exact ⟨fun isFeed => absurd (isFeed ▸ letter) (by decide),
        fun member => absurd (others _ member) (by decide)⟩
  | @colour more _ others stops =>
      refine isOneLine_describe_word ((isOneLine_ofList _).mpr ?_)
      rw [List.mem_cons, not_or]
      exact ⟨by decide, fun member => absurd (others _ member) (by decide)⟩
  | @number first more _ starts run =>
      refine isOneLine_describe_number ((isOneLine_ofList _).mpr ?_)
      rw [← run]
      exact fun member => absurd (isNumeric_of_mem_numberRun member) (by decide)
  | _ => exact isOneLine_literal rfl

/-- The tokens that cover a text are shown in one line each. -/
theorem Covers.areOneLine
    {behind before text : List Char}
    {found : List Token}
    (covers : Covers behind before found text) :
    AreOneLine found := by
  induction covers with
  | nothing => exact List.forall_mem_nil _
  | skip _ _ inductionHypothesis => exact inductionHypothesis
  | token cut _ inductionHypothesis =>
      exact List.forall_mem_cons.mpr ⟨cut.isOneLine, inductionHypothesis⟩

/-! Faults of scanning. -/

theorem isOneLine_label (place : Place) : IsOneLine place.label := by
  simp only [Place.label, isOneLine_append, isOneLine_toString, and_true]
  and_intros <;> exact isOneLine_literal rfl

theorem isOneLine_lineLabel (line : Nat) : IsOneLine (lineLabel line) := by
  simp only [lineLabel, isOneLine_append, isOneLine_toString, and_true]
  and_intros <;> exact isOneLine_literal rfl

theorem isSkipped_feed (behind : List Char) : IsSkipped ['\n'] behind :=
  .blanks (List.forall_mem_singleton.mpr (by decide))

/-- A line end is never refused. -/
theorem StartsNothing.ne_feed
    {found : Char}
    {rest : List Char}
    (nothing : StartsNothing (found :: rest)) :
    '\n' ∉ [found] := by
  intro isFeed
  have skipped := isSkipped_feed rest
  rw [List.mem_singleton.mp isFeed] at skipped
  exact (nothing [found] rest rfl (List.cons_ne_nil _ _)).1 skipped

/-- The faults of a scan are told in one line. -/
theorem IsFaultAt.isOneLine
    {before text : List Char}
    {fault : Fault}
    (isFault : IsFaultAt before text fault) :
    IsOneLine fault.message := by
  unfold Fault.message
  cases isFault with
  | @unexpectedCharacter found rest nothing =>
      have plain : IsOneLine (String.ofList [found]) :=
        (isOneLine_ofList [found]).mpr nothing.ne_feed
      simp only [isOneLine_append, isOneLine_label, plain, true_and, and_true]
      and_intros <;> exact isOneLine_literal rfl
  | unterminatedComment unclosed =>
      simp only [isOneLine_append, isOneLine_label, true_and]
      exact isOneLine_literal rfl
  | preprocessor =>
      simp only [isOneLine_append, isOneLine_lineLabel, true_and]
      exact isOneLine_literal rfl

/-- Scanning gives lexemes of one line. -/
theorem tokens_reads (source : String) : Reads AreOneLine (tokens source) := by
  have account : IsAccountOf [] source.toList (tokens source) :=
    isAccountOf_tokensFrom rfl source.toList
  cases scanned : tokens source with
  | ok found =>
      rw [scanned] at account
      exact account.1.areOneLine
  | error fault =>
      rw [scanned] at account
      obtain ⟨covered, behind, found, -, -, isFault⟩ := account
      exact isFault.isOneLine

/-! Faults of phrases. -/

/-- An expectation that names a rule or an operator by a text of one line. -/
def Expected.IsOneLine : Expected → Prop
  | .ruleEnd rule => Text.IsOneLine rule
  | .valueFor operator => Text.IsOneLine operator
  | _ => True

/-- What is expected is told in one line. -/
theorem Expected.isOneLine_text
    {expected : Expected}
    (plain : expected.IsOneLine) :
    Text.IsOneLine expected.text := by
  unfold Expected.text
  cases expected with
  | ruleEnd rule =>
      have named : Text.IsOneLine rule := plain
      simp only [isOneLine_append, named, and_true]
      and_intros <;> exact isOneLine_literal rfl
  | valueFor operator =>
      have named : Text.IsOneLine operator := plain
      simp only [isOneLine_append, named, and_true]
      and_intros <;> exact isOneLine_literal rfl
  | _ => exact isOneLine_literal rfl

/-- A token in the place of another is reported in one line. -/
theorem isOneLine_unexpected
    {token : Token}
    (shown : IsOneLine token.lexeme.describe)
    {expected : Expected}
    (asked : expected.IsOneLine) :
    IsOneLine (token.unexpected expected).message := by
  unfold Token.unexpected Fault.message
  simp only [isOneLine_append, isOneLine_label, shown,
    expected.isOneLine_text asked, true_and, and_true]
  and_intros <;> exact isOneLine_literal rfl

/-- An early end is reported in one line. -/
theorem isOneLine_unexpectedEnd
    {expected : Expected}
    (asked : expected.IsOneLine) :
    IsOneLine (Fault.unexpectedEnd expected).message := by
  unfold Fault.message
  simp only [isOneLine_append, expected.isOneLine_text asked, and_true]
  exact isOneLine_literal rfl

/-- A repeated modifier is reported in one line. -/
theorem isOneLine_duplicateModifier
    (line : Nat)
    {rule : String}
    (plain : IsOneLine rule)
    (modifier : Modifier) :
    IsOneLine (Fault.duplicateModifier line rule modifier).message := by
  have wording : IsOneLine modifier.text := by
    cases modifier <;> exact isOneLine_literal rfl
  unfold Fault.message
  simp only [isOneLine_append, isOneLine_lineLabel, plain, wording,
    true_and, and_true]
  and_intros <;> exact isOneLine_literal rfl

/-! Single tokens. -/

section

variable (expected : Expected) {tokens : List Token}

/-- A lexeme is taken or missed in one line. -/
theorem takeLexeme_reads
    (lexeme : Lexeme)
    (asked : expected.IsOneLine)
    (plain : AreOneLine tokens) :
    Reads AreOneLine (takeLexeme lexeme expected tokens) := by
  cases tokens with
  | nil => exact isOneLine_unexpectedEnd asked
  | cons token rest =>
      rw [takeLexeme]
      split
      · exact plain.tail
      · exact isOneLine_unexpected plain.head asked

/-- A number is taken or missed in one line. -/
theorem takeNumber_reads
    (asked : expected.IsOneLine)
    (plain : AreOneLine tokens) :
    Reads (fun found => AreOneLine found.2) (takeNumber expected tokens) := by
  cases tokens with
  | nil => exact isOneLine_unexpectedEnd asked
  | cons token rest =>
      rw [takeNumber]
      split
      · exact plain.tail
      · exact isOneLine_unexpected plain.head asked

/-- A word is taken or missed in one line. -/
theorem takeWord_reads
    (asked : expected.IsOneLine)
    (plain : AreOneLine tokens) :
    Reads (fun found =>
      IsOneLine found.1.1 ∧ IsOneLine found.1.2.lexeme.describe ∧
      AreOneLine found.2) (takeWord expected tokens) := by
  cases tokens with
  | nil => exact isOneLine_unexpectedEnd asked
  | cons token rest =>
      rw [takeWord]
      split
      · next text isWord =>
          exact ⟨isOneLine_of_word isWord plain.head, plain.head, plain.tail⟩
      · exact isOneLine_unexpected plain.head asked

/-- A rule name is taken or missed in one line. -/
theorem takeRuleName_reads
    (asked : expected.IsOneLine)
    (plain : AreOneLine tokens) :
    Reads (fun found => IsOneLine found.1 ∧ AreOneLine found.2)
      (takeRuleName expected tokens) := by
  have word := takeWord_reads expected asked plain
  unfold takeRuleName
  split
  · next failed => exact word.isOneLine failed
  · next name token rest taken =>
      obtain ⟨isName, shown, later⟩ := word.holds taken
      split
      · exact ⟨isName, later⟩
      · exact isOneLine_unexpected shown asked

theorem takeColour_reads
    (plain : AreOneLine tokens) :
    Reads AreOneLine (takeColour tokens) := by
  cases tokens with
  | nil => exact isOneLine_unexpectedEnd trivial
  | cons token rest =>
      rw [takeColour]
      split
      · exact plain.tail
      · exact plain.tail
      · exact isOneLine_unexpected plain.head trivial

end

/-! Loops. -/

theorem numbers_areOneLine
    {tokens : List Token}
    (plain : AreOneLine tokens) :
    AreOneLine (numbers tokens).2 := by
  induction tokens with
  | nil => exact plain
  | cons token rest inductionHypothesis =>
      rw [numbers]
      split
      · exact inductionHypothesis plain.tail
      · exact plain

section

variable {keyword : String} {tokens : List Token}

/-- The numbers of an operator are taken or missed in one line. -/
theorem operatorNumbers_reads
    (named : IsOneLine keyword)
    (plain : AreOneLine tokens) :
    Reads (fun found => AreOneLine found.2)
      (operatorNumbers keyword tokens) := by
  have number := takeNumber_reads (.valueFor keyword) named plain
  unfold operatorNumbers
  split
  · next failed => exact number.isOneLine failed
  · next taken => exact numbers_areOneLine (number.holds taken)

/-- The operands of an operator are taken or refused in one line. -/
theorem operands_reads
    (named : IsOneLine keyword)
    (plain : AreOneLine tokens)
    (operator : Operator) :
    Reads (fun found => AreOneLine found.2)
      (operands keyword tokens operator) := by
  have numbers := operatorNumbers_reads named plain
  have colour := takeColour_reads plain
  cases operator with
  | geometric kind =>
      simp only [operands]
      split
      · next failed => exact numbers.isOneLine failed
      · next taken => exact numbers.holds taken
  | shading =>
      simp only [operands]
      split
      · next failed => exact numbers.isOneLine failed
      · next taken => exact numbers.holds taken
  | colour =>
      simp only [operands]
      split
      · next failed => exact colour.isOneLine failed
      · next taken => exact colour.holds taken
  | blend =>
      simp only [operands]
      split
      · next failed => exact colour.isOneLine failed
      · next taken =>
          have strength :=
            takeNumber_reads .blendStrength trivial (colour.holds taken)
          split
          · next failed => exact strength.isOneLine failed
          · next taken => exact strength.holds taken

end

/-- The groups of a block are read or refused in one line. -/
theorem transforms_reads
    {tokens : List Token}
    (plain : AreOneLine tokens) :
    Reads (fun found => AreOneLine found.2) (transforms tokens) := by
  fun_induction transforms tokens with
  | case1 => exact isOneLine_unexpectedEnd trivial
  | case2 token rest closes => exact plain.tail
  | case3 token rest text isWord unknown =>
      have shown := isOneLine_lower (isOneLine_of_word isWord plain.head)
      unfold Reads FailsInOneLine Fault.message
      simp only [isOneLine_append, isOneLine_label, shown, true_and, and_true]
      and_intros <;> exact isOneLine_literal rfl
  | case4 token rest text isWord operator known fault failed =>
      have named := isOneLine_lower (isOneLine_of_word isWord plain.head)
      exact (operands_reads named plain.tail operator).isOneLine failed
  | case5 token rest text isWord operator known kept behind taken fault failed
    inductionHypothesis =>
      have named := isOneLine_lower (isOneLine_of_word isWord plain.head)
      have later := (operands_reads named plain.tail operator).holds taken
      exact (inductionHypothesis later).isOneLine failed
  | case6 token rest text isWord operator known kept behind taken
    more after read
      inductionHypothesis =>
      have named := isOneLine_lower (isOneLine_of_word isWord plain.head)
      have later := (operands_reads named plain.tail operator).holds taken
      have last := (inductionHypothesis later).holds read
      exact last
  | case7 token rest lexeme => exact isOneLine_unexpected plain.head trivial

/-- A block is read or refused in one line. -/
theorem block_reads
    (count : Option String)
    {tokens : List Token}
    (plain : AreOneLine tokens) :
    Reads (fun found => AreOneLine found.2) (block count tokens) := by
  have opening := takeLexeme_reads .openBrace .openBrace trivial plain
  unfold block
  split
  · next failed => exact opening.isOneLine failed
  · next rest taken =>
      have inside := transforms_reads (opening.holds taken)
      split
      · next failed => exact inside.isOneLine failed
      · next read => exact inside.holds read

/-- A loop that is ahead is read or refused in one line. -/
theorem loopAhead_reads
    {tokens : List Token}
    (plain : AreOneLine tokens) :
    Reads (fun found => ∀ loop ∈ found, AreOneLine loop.2)
      (loopAhead tokens) := by
  cases tokens with
  | nil => exact fun loop absent => absurd absent (Option.not_mem_none loop)
  | cons token rest =>
      rw [loopAhead]
      split
      · have whole := block_reads none plain
        split
        · next failed => exact whole.isOneLine failed
        · next found read =>
            intro loop isFound
            cases isFound
            exact whole.holds read
      · next count isNumber =>
          have star := takeLexeme_reads .starAfterCount .star trivial plain.tail
          split
          · next failed => exact star.isOneLine failed
          · next behind taken =>
              have inside := block_reads (some count) (star.holds taken)
              split
              · next failed => exact inside.isOneLine failed
              · next found read =>
                  intro loop isFound
                  cases isFound
                  exact inside.holds read
      · exact fun loop absent => absurd absent (Option.not_mem_none loop)

/-- Loops are read or refused in one line. -/
theorem loops_reads
    {tokens : List Token}
    (plain : AreOneLine tokens) :
    Reads (fun found => AreOneLine found.2) (loops tokens) := by
  fun_induction loops tokens with
  | case1 tokens fault failed => exact (loopAhead_reads plain).isOneLine failed
  | case2 tokens none => exact plain
  | case3 tokens first rest ahead fault failed inductionHypothesis =>
      have later := (loopAhead_reads plain).holds ahead _ rfl
      exact (inductionHypothesis later).isOneLine failed
  | case4 tokens first rest ahead more behind read inductionHypothesis =>
      have later := (loopAhead_reads plain).holds ahead _ rfl
      have last := (inductionHypothesis later).holds read
      exact last

/-! Calls. -/

/-- A target is read or refused in one line. -/
theorem target_reads
    {tokens : List Token}
    (plain : AreOneLine tokens) :
    Reads (fun found => AreOneLine found.2) (target tokens) := by
  have word := takeWord_reads .target trivial plain
  unfold target
  split
  · next failed => exact word.isOneLine failed
  · next name token rest taken =>
      obtain ⟨-, shown, later⟩ := word.holds taken
      split
      · exact later
      · split
        · exact later
        · exact isOneLine_unexpected shown trivial

/-- A call is read or refused in one line. -/
theorem call_reads
    {tokens : List Token}
    (plain : AreOneLine tokens) :
    Reads (fun found => AreOneLine found.2) (call tokens) := by
  have chain := loops_reads plain
  unfold call
  split
  · next failed => exact chain.isOneLine failed
  · next rest read =>
      have last := target_reads (chain.holds read)
      split
      · next failed => exact last.isOneLine failed
      · next taken => exact last.holds taken

/-- A body is read or refused in one line. -/
theorem body_reads
    {rule : String}
    (named : IsOneLine rule)
    {tokens : List Token}
    (plain : AreOneLine tokens) :
    Reads (fun found => AreOneLine found.2) (body rule tokens) := by
  fun_induction body rule tokens with
  | case1 => exact isOneLine_unexpectedEnd named
  | case2 token rest closes => exact plain.tail
  | case3 token rest goesOn fault failed =>
      exact (call_reads plain).isOneLine failed
  | case4 token rest goesOn first behind taken fault failed
    inductionHypothesis =>
      exact (inductionHypothesis ((call_reads plain).holds taken)).isOneLine
        failed
  | case5 token rest goesOn first behind taken more after read
    inductionHypothesis =>
      have last :=
        (inductionHypothesis ((call_reads plain).holds taken)).holds read
      exact last

/-! Rules. -/

/-- A depth modifier is read or refused in one line. -/
theorem depthModifier_reads
    {tokens : List Token}
    (plain : AreOneLine tokens) :
    Reads (fun found => AreOneLine found.2) (depthModifier tokens) := by
  have depth := takeNumber_reads .maxDepthValue trivial plain
  unfold depthModifier
  split
  · next failed => exact depth.isOneLine failed
  · next taken =>
      have later := depth.holds taken
      have mark := takeLexeme_reads .successorName .greater trivial later
      split
      · exact later
      · next marked =>
          have name :=
            takeRuleName_reads .successorName trivial (mark.holds marked)
          split
          · next failed => exact name.isOneLine failed
          · next found => exact (name.holds found).2

/-- Modifiers are read or refused in one line. -/
theorem modifiers_reads
    {definition : RuleDefinition}
    (named : IsOneLine definition.name)
    {tokens : List Token}
    (plain : AreOneLine tokens) :
    Reads (fun found => AreOneLine found.2) (modifiers definition tokens) := by
  fun_induction modifiers definition tokens with
  | case1 => exact isOneLine_unexpectedEnd trivial
  | case2 => exact isOneLine_duplicateModifier _ named .maxDepth
  | case3 definition token rest keyword fresh fault failed =>
      exact (depthModifier_reads plain.tail).isOneLine failed
  | case4 definition token rest keyword fresh depth successor behind taken
    inductionHypothesis =>
      exact inductionHypothesis named
        ((depthModifier_reads plain.tail).holds taken)
  | case5 => exact isOneLine_duplicateModifier _ named .weight
  | case6 definition token rest noDepth keyword fresh fault failed =>
      exact (takeNumber_reads .weightValue trivial plain.tail).isOneLine failed
  | case7 definition token rest noDepth keyword fresh weight behind taken
    inductionHypothesis =>
      exact inductionHypothesis named
        ((takeNumber_reads .weightValue trivial plain.tail).holds taken)
  | case8 => exact plain

/-- A rule is read or refused in one line. -/
theorem rule_reads
    (line : Nat)
    {tokens : List Token}
    (plain : AreOneLine tokens) :
    Reads (fun found => AreOneLine found.2) (rule line tokens) := by
  have name := takeRuleName_reads .ruleName trivial plain
  unfold rule
  split
  · next failed => exact name.isOneLine failed
  · next found rest taken =>
      obtain ⟨named, later⟩ := name.holds taken
      have modified :
          Reads _ (modifiers ⟨found, none, none, none, [], line⟩ rest) :=
        modifiers_reads named later
      split
      · next failed => exact modified.isOneLine failed
      · next definition behind read =>
          have opening :=
            takeLexeme_reads .openBrace .openBrace trivial (modified.holds read)
          split
          · next failed => exact opening.isOneLine failed
          · next inside opened =>
              have calls := body_reads named (opening.holds opened)
              split
              · next failed => exact calls.isOneLine failed
              · next read => exact calls.holds read

/-! Scripts. -/

/-- A setting is read or refused in one line. -/
theorem setting_reads
    {tokens : List Token}
    (plain : AreOneLine tokens) :
    Reads (fun found => AreOneLine found.2) (setting tokens) := by
  have word := takeWord_reads .settingName trivial plain
  unfold setting
  split
  · next failed => exact word.isOneLine failed
  · next key token rest taken =>
      obtain ⟨shown, -, later⟩ := word.holds taken
      split
      · exact takeNumber_reads .maxDepthValue trivial later
      · unfold Reads FailsInOneLine Fault.message
        simp only [isOneLine_append, isOneLine_lineLabel, shown,
          true_and, and_true]
        and_intros <;> exact isOneLine_literal rfl

/-- An item is read or refused in one line. -/
theorem item_reads
    {token : Token}
    {rest : List Token}
    (plain : AreOneLine (token :: rest)) :
    Reads (fun found => AreOneLine found.2) (item token rest) := by
  have set := setting_reads plain.tail
  have defined := rule_reads token.place.line plain.tail
  have called := call_reads plain
  unfold item
  split
  · split
    · next failed => exact set.isOneLine failed
    · next taken => exact set.holds taken
  · split
    · split
      · next failed => exact defined.isOneLine failed
      · next taken => exact defined.holds taken
    · split
      · next failed => exact called.isOneLine failed
      · next taken => exact called.holds taken

/-- Items are read or refused in one line. -/
theorem items_reads
    {tokens : List Token}
    (plain : AreOneLine tokens) :
    Reads (fun _ => True) (items tokens) := by
  fun_induction items tokens with
  | case1 => trivial
  | case2 token rest fault failed => exact (item_reads plain).isOneLine failed
  | case3 token rest first behind taken fault failed inductionHypothesis =>
      exact (inductionHypothesis ((item_reads plain).holds taken)).isOneLine
        failed
  | case4 => trivial

/-- Whatever a source holds, what is wrong with it is said in one line. -/
theorem isOneLine_of_ofSource
    {source : String}
    {fault : Fault}
    (failed : ofSource source = .error fault) :
    IsOneLine fault.message := by
  have scanned := tokens_reads source
  unfold ofSource at failed
  split at failed
  · next refused =>
      cases failed
      exact scanned.isOneLine refused
  · next written read =>
      have parts := items_reads (scanned.holds read)
      unfold ofTokens at failed
      split at failed
      · next refused =>
          cases failed
          exact parts.isOneLine refused
      · split at failed
        · cases failed
          exact isOneLine_literal rfl
        · cases failed

end Eisen.Script
