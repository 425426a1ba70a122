import Eisen.Proofs.Script.Phrases
import Mathlib.Data.List.Induction

namespace Eisen

/-!
# Reading is exact

Every reader of `Eisen.Script.Grammar` accepts exactly the phrases of its kind.
For each reader one statement says which token lists it accepts, what it
returns, and which tokens it leaves. A reader that takes as many tokens as it
can also says what cannot stand in front of the tokens it leaves.
-/

namespace TransformKind

/-- Where a transformation is found for a text, the text is its keyword. -/
theorem ofKeyword?_eq_some_iff
    {text : String}
    {kind : TransformKind} :
    ofKeyword? text = some kind ↔ kind.keyword = text := by
  constructor
  · intro found
    simpa using List.find?_some found
  · rintro rfl
    cases kind <;> decide

/-- The keywords of transformations are written in lower case. -/
theorem lower_keyword
    (kind : TransformKind) :
    Text.lower kind.keyword = kind.keyword := by
  cases kind <;> decide

end TransformKind

namespace Script

/-! Single tokens. -/

/-- A lexeme is taken exactly where it stands. -/
theorem takeLexeme_eq_ok_iff
    {lexeme : Lexeme}
    {expected : Expected}
    {tokens rest : List Token} :
    takeLexeme lexeme expected tokens = .ok rest ↔
      ∃ token, token.lexeme = lexeme ∧ tokens = token :: rest := by
  cases tokens with
  | nil => simp [takeLexeme]
  | cons token behind =>
      simp only [takeLexeme]
      split
      · next same =>
          constructor
          · intro taken
            cases taken
            exact ⟨token, same, rfl⟩
          · rintro ⟨found, _, shape⟩
            cases shape
            rfl
      · next other =>
          constructor
          · intro taken
            cases taken
          · rintro ⟨found, same, shape⟩
            cases shape
            exact (other same).elim

/-- A number is taken exactly where one stands. -/
theorem takeNumber_eq_ok_iff
    {expected : Expected}
    {tokens rest : List Token}
    {text : String} :
    takeNumber expected tokens = .ok (text, rest) ↔
      ∃ token, WritesNumber token text ∧ tokens = token :: rest := by
  cases tokens with
  | nil => simp [takeNumber]
  | cons token behind =>
      simp only [takeNumber]
      split
      · next found number =>
          constructor
          · intro taken
            cases taken
            exact ⟨token, number, rfl⟩
          · rintro ⟨other, same, shape⟩
            cases shape
            cases number.symm.trans same
            rfl
      · next none =>
          constructor
          · intro taken
            cases taken
          · rintro ⟨other, same, shape⟩
            cases shape
            exact (none text same).elim

/-- A word is taken exactly where one stands. -/
theorem takeWord_eq_ok_iff
    {expected : Expected}
    {tokens rest : List Token}
    {text : String}
    {token : Token} :
    takeWord expected tokens = .ok ((text, token), rest) ↔
      token.lexeme = .word text ∧ tokens = token :: rest := by
  cases tokens with
  | nil => simp [takeWord]
  | cons first behind =>
      simp only [takeWord]
      split
      · next found word =>
          constructor
          · intro taken
            cases taken
            exact ⟨word, rfl⟩
          · rintro ⟨same, shape⟩
            cases shape
            cases word.symm.trans same
            rfl
      · next none =>
          constructor
          · intro taken
            cases taken
          · rintro ⟨same, shape⟩
            cases shape
            exact (none text same).elim

/-- A rule name is taken exactly where one stands. -/
theorem takeRuleName_eq_ok_iff
    {expected : Expected}
    {tokens rest : List Token}
    {name : String} :
    takeRuleName expected tokens = .ok (name, rest) ↔
      ∃ token, WritesName token name ∧ tokens = token :: rest := by
  constructor
  · intro taken
    unfold takeRuleName at taken
    split at taken
    · cases taken
    · next word token behind found =>
        obtain ⟨isWord, shape⟩ := takeWord_eq_ok_iff.mp found
        split at taken
        · next proper =>
            cases taken
            exact ⟨token, ⟨isWord, proper⟩, shape⟩
        · cases taken
  · rintro ⟨token, ⟨isWord, proper⟩, shape⟩
    have found : takeWord expected tokens = .ok ((name, token), rest) :=
      takeWord_eq_ok_iff.mpr ⟨isWord, shape⟩
    simp only [takeRuleName, found, proper, ↓reduceIte]

/-- A colour value is taken exactly where one stands. -/
theorem takeColour_eq_ok_iff
    {tokens rest : List Token} :
    takeColour tokens = .ok rest ↔
      ∃ token, WritesColour token ∧ tokens = token :: rest := by
  cases tokens with
  | nil => simp [takeColour]
  | cons token behind =>
      simp only [takeColour]
      split
      · next text word =>
          constructor
          · intro taken
            cases taken
            exact ⟨token, .inl ⟨text, word⟩, rfl⟩
          · rintro ⟨other, _, shape⟩
            cases shape
            rfl
      · next text number =>
          constructor
          · intro taken
            cases taken
            exact ⟨token, .inr ⟨text, number⟩, rfl⟩
          · rintro ⟨other, _, shape⟩
            cases shape
            rfl
      · next noWord noNumber =>
          constructor
          · intro taken
            cases taken
          · rintro ⟨other, ⟨text, word⟩ | ⟨text, number⟩, shape⟩
            · cases shape
              exact (noWord text word).elim
            · cases shape
              exact (noNumber text number).elim

/-! Runs of numbers. -/

/-- No number stands in front of the tokens. -/
def NoNumberAhead (tokens : List Token) : Prop :=
  ∀ token ∈ tokens.head?, ∀ text, ¬WritesNumber token text

/-- The numbers that are taken are all the numbers in front. -/
theorem numbers_spec
    (tokens : List Token) :
    ∃ written,
      tokens = written ++ (numbers tokens).2 ∧
        written.map Token.lexeme = (numbers tokens).1.map Lexeme.number ∧
        NoNumberAhead (numbers tokens).2 := by
  induction tokens with
  | nil => exact ⟨[], by simp [numbers, NoNumberAhead]⟩
  | cons token rest inductionHypothesis =>
      simp only [numbers]
      split
      · next text number =>
          obtain ⟨written, shape, lexemes, stops⟩ := inductionHypothesis
          refine ⟨token :: written, ?_, ?_, stops⟩
          · exact congrArg (token :: ·) shape
          · simp [number, lexemes]
      · next none =>
          refine ⟨[], rfl, rfl, ?_⟩
          intro first isFirst text number
          cases isFirst
          exact none text number

/-- All numbers in front of the tokens are taken, and nothing else. -/
theorem numbers_append
    {written rest : List Token}
    {texts : List String}
    (lexemes : written.map Token.lexeme = texts.map Lexeme.number)
    (stops : NoNumberAhead rest) :
    numbers (written ++ rest) = (texts, rest) := by
  induction written generalizing texts with
  | nil =>
      obtain rfl : texts = [] := by simpa [eq_comm] using lexemes
      cases rest with
      | nil => rfl
      | cons token behind =>
          simp only [List.nil_append, numbers]
          split
          · next text number =>
              exact (stops token rfl text number).elim
          · rfl
  | cons token behind inductionHypothesis =>
      cases texts with
      | nil => simp at lexemes
      | cons text more =>
          simp only [List.map_cons, List.cons.injEq] at lexemes
          simp only [List.cons_append, numbers, lexemes.1]
          rw [inductionHypothesis lexemes.2]

/-- The operands of an operator are all the numbers behind it, at least one. -/
theorem operatorNumbers_eq_ok_iff
    {keyword : String}
    {tokens rest : List Token}
    {texts : List String} :
    operatorNumbers keyword tokens = .ok (texts, rest) ↔
      ∃ written,
        WritesNumbers written texts ∧ NoNumberAhead rest ∧
          tokens = written ++ rest := by
  constructor
  · intro taken
    unfold operatorNumbers at taken
    split at taken
    · cases taken
    · next first behind found =>
        cases taken
        obtain ⟨token, number, rfl⟩ := takeNumber_eq_ok_iff.mp found
        obtain ⟨written, shape, lexemes, stops⟩ := numbers_spec behind
        refine ⟨token :: written, ⟨?_, by simp⟩, stops, ?_⟩
        · rw [List.map_cons, lexemes, number]
          rfl
        · exact congrArg (token :: ·) shape
  · rintro ⟨written, ⟨lexemes, some⟩, stops, rfl⟩
    cases texts with
    | nil => exact (some rfl).elim
    | cons text more =>
        cases written with
        | nil => simp at lexemes
        | cons token behind =>
            simp only [List.map_cons, List.cons.injEq] at lexemes
            have found :
                takeNumber (.valueFor keyword) (token :: behind ++ rest) =
                  .ok (text, behind ++ rest) :=
              takeNumber_eq_ok_iff.mpr ⟨token, lexemes.1, rfl⟩
            simp only [operatorNumbers, found, numbers_append lexemes.2 stops]

/-! Operators and their keywords. -/

/-- A token is a keyword if it is a word with the keyword's letters. -/
theorem Token.isKeyword_iff
    {token : Token}
    {keyword : String} :
    token.isKeyword keyword = true ↔
      ∃ word, token.lexeme = .word word ∧
        Text.lower word = Text.lower keyword := by
  unfold Token.isKeyword
  split
  · next text word => simp [word, Text.sameLetters]
  · next none =>
      constructor
      · intro impossible
        cases impossible
      · rintro ⟨word, isWord, _⟩
        exact (none word isWord).elim

/-- The keywords of colour operators are written in lower case. -/
theorem lower_shadingKeyword
    {keyword : String}
    (member : keyword ∈ shadingKeywords) :
    Text.lower keyword = keyword := by
  revert keyword
  decide

namespace Operator

/-- The texts by which an operator is called. -/
def Called
    (text : String) :
    Operator → Prop
  | .geometric kind => kind.keyword = text
  | .shading => text ∈ shadingKeywords
  | .colour => text = "color"
  | .blend => text = "blend"

/-- An operator is found for exactly the texts by which it is called. -/
theorem ofKeyword?_eq_some_iff
    {text : String}
    {operator : Operator} :
    ofKeyword? text = some operator ↔ operator.Called text := by
  constructor
  · intro found
    unfold ofKeyword? at found
    split at found
    · next kind known =>
        cases found
        exact TransformKind.ofKeyword?_eq_some_iff.mp known
    · split at found
      · next listed =>
          cases found
          simpa [Called] using listed
      · split at found
        · next same =>
            cases found
            simpa [Called] using same
        · split at found
          · next same =>
              cases found
              simpa [Called] using same
          · cases found
  · intro called
    cases operator with
    | geometric kind =>
        simp only [ofKeyword?, TransformKind.ofKeyword?_eq_some_iff.mpr called]
    | shading =>
        revert called
        revert text
        simp only [Called]
        decide
    | colour =>
        cases called
        decide
    | blend =>
        cases called
        decide

end Operator

/-! Groups and blocks. -/

/-- A token with a keyword's letters is that keyword. -/
theorem Token.isKeyword_of_lower
    {token : Token}
    {word keyword : String}
    (isWord : token.lexeme = .word word)
    (letters : Text.lower word = keyword)
    (lowerCase : Text.lower keyword = keyword) :
    token.isKeyword keyword = true :=
  Token.isKeyword_iff.mpr ⟨word, isWord, letters.trans lowerCase.symm⟩

/-- What is read behind an operator makes a group with it. -/
theorem operands_sound
    {token : Token}
    {word : String}
    {operator : Operator}
    {rest behind : List Token}
    {kept : List Transform}
    (isWord : token.lexeme = .word word)
    (known : Operator.ofKeyword? (Text.lower word) = some operator)
    (taken : operands (Text.lower word) rest operator = .ok (kept, behind)) :
    ∃ written, rest = written ++ behind ∧
      WritesGroup (token :: written) kept := by
  have called := Operator.ofKeyword?_eq_some_iff.mp known
  cases operator with
  | geometric kind =>
      simp only [operands] at taken
      split at taken
      · cases taken
      · next values after numbersTaken =>
          cases taken
          obtain ⟨written, numbers, _, shape⟩ :=
            operatorNumbers_eq_ok_iff.mp numbersTaken
          have keyword : token.isKeyword kind.keyword = true :=
            Token.isKeyword_of_lower isWord called.symm kind.lower_keyword
          exact ⟨written, shape, .geometric kind keyword numbers⟩
  | shading =>
      simp only [operands] at taken
      split at taken
      · cases taken
      · next values after numbersTaken =>
          cases taken
          obtain ⟨written, numbers, _, shape⟩ :=
            operatorNumbers_eq_ok_iff.mp numbersTaken
          have keyword : token.isKeyword (Text.lower word) = true :=
            Token.isKeyword_of_lower isWord rfl (lower_shadingKeyword called)
          exact ⟨written, shape, .shading called keyword numbers⟩
  | colour =>
      simp only [operands] at taken
      split at taken
      · cases taken
      · next after colourTaken =>
          cases taken
          obtain ⟨value, colour, shape⟩ := takeColour_eq_ok_iff.mp colourTaken
          have keyword : token.isKeyword "color" = true :=
            Token.isKeyword_of_lower isWord called (by decide)
          exact ⟨[value], shape, .colour keyword colour⟩
  | blend =>
      simp only [operands] at taken
      split at taken
      · cases taken
      · next after colourTaken =>
          split at taken
          · cases taken
          · next text remaining numberTaken =>
              cases taken
              obtain ⟨value, colour, rfl⟩ := takeColour_eq_ok_iff.mp colourTaken
              obtain ⟨strength, number, rfl⟩ :=
                takeNumber_eq_ok_iff.mp numberTaken
              have keyword : token.isKeyword "blend" = true :=
                Token.isKeyword_of_lower isWord called (by decide)
              exact ⟨[value, strength], rfl, .blend keyword colour number⟩

/-- A group starts with an operator behind which its operands are read. -/
theorem operands_complete
    {token : Token}
    {written behind : List Token}
    {kept : List Transform}
    (group : WritesGroup (token :: written) kept)
    (stops : NoNumberAhead behind) :
    ∃ word operator,
      token.lexeme = .word word ∧
        Operator.ofKeyword? (Text.lower word) = some operator ∧
        operands (Text.lower word) (written ++ behind) operator =
          .ok (kept, behind) := by
  cases group with
  | geometric kind keyword numbers =>
      obtain ⟨word, isWord, letters⟩ := Token.isKeyword_iff.mp keyword
      rw [kind.lower_keyword] at letters
      refine ⟨word, .geometric kind, isWord,
        Operator.ofKeyword?_eq_some_iff.mpr letters.symm, ?_⟩
      simp only [operands,
        operatorNumbers_eq_ok_iff.mpr ⟨written, numbers, stops, rfl⟩]
  | shading member keyword numbers =>
      obtain ⟨word, isWord, letters⟩ := Token.isKeyword_iff.mp keyword
      rw [lower_shadingKeyword member] at letters
      rw [← letters] at member
      refine ⟨word, .shading, isWord,
        Operator.ofKeyword?_eq_some_iff.mpr member, ?_⟩
      simp only [operands,
        operatorNumbers_eq_ok_iff.mpr ⟨written, numbers, stops, rfl⟩]
  | @colour _ value keyword colour =>
      obtain ⟨word, isWord, letters⟩ := Token.isKeyword_iff.mp keyword
      refine ⟨word, .colour, isWord,
        Operator.ofKeyword?_eq_some_iff.mpr letters, ?_⟩
      simp only [operands, List.cons_append, List.nil_append,
        takeColour_eq_ok_iff.mpr ⟨value, colour, rfl⟩]
  | @blend _ value strength text keyword colour number =>
      obtain ⟨word, isWord, letters⟩ := Token.isKeyword_iff.mp keyword
      refine ⟨word, .blend, isWord,
        Operator.ofKeyword?_eq_some_iff.mpr letters, ?_⟩
      simp only [operands, List.cons_append, List.nil_append,
        takeColour_eq_ok_iff.mpr ⟨value, colour, rfl⟩,
        takeNumber_eq_ok_iff.mpr ⟨strength, number, rfl⟩]

/-- A group is not empty and starts with a word. -/
theorem WritesGroup.starts
    {written : List Token}
    {kept : List Transform}
    (group : WritesGroup written kept) :
    ∃ token behind word,
      written = token :: behind ∧ token.lexeme = .word word := by
  cases group with
  | geometric kind keyword _ =>
      obtain ⟨word, isWord, _⟩ := Token.isKeyword_iff.mp keyword
      exact ⟨_, _, word, rfl, isWord⟩
  | shading _ keyword _ =>
      obtain ⟨word, isWord, _⟩ := Token.isKeyword_iff.mp keyword
      exact ⟨_, _, word, rfl, isWord⟩
  | colour keyword _ =>
      obtain ⟨word, isWord, _⟩ := Token.isKeyword_iff.mp keyword
      exact ⟨_, _, word, rfl, isWord⟩
  | blend keyword _ _ =>
      obtain ⟨word, isWord, _⟩ := Token.isKeyword_iff.mp keyword
      exact ⟨_, _, word, rfl, isWord⟩

/-- Behind a group stands another group or the brace that closes the block. -/
theorem noNumberAhead_groups
    {inside : List Token}
    {closing : Token}
    {groups : List (List Transform)}
    (content : WritesEach WritesGroup inside groups)
    (closes : closing.lexeme = .closeBrace)
    (rest : List Token) :
    NoNumberAhead (inside ++ closing :: rest) := by
  intro token isFirst text number
  cases content with
  | nil =>
      cases isFirst
      cases closes.symm.trans number
  | cons head tail =>
      obtain ⟨first, behind, word, rfl, isWord⟩ := head.starts
      cases isFirst
      cases isWord.symm.trans number

/--
The transformations of a block are those of its groups, up to its closing brace.
-/
theorem transforms_eq_ok_iff
    {tokens rest : List Token}
    {found : List Transform} :
    transforms tokens = .ok (found, rest) ↔
      ∃ inside closing groups,
        WritesEach WritesGroup inside groups ∧ closing.lexeme = .closeBrace ∧
          found = groups.flatten ∧ tokens = inside ++ closing :: rest := by
  constructor
  · intro taken
    fun_induction transforms tokens generalizing found rest with
    | case1 => cases taken
    | case2 token behind closes =>
        cases taken
        exact ⟨[], token, [], .nil, closes, rfl, rfl⟩
    | case3 => cases taken
    | case4 => cases taken
    | case5 => cases taken
    | case6 token behind text word operator known kept after operandsTaken
      more remaining
        read inductionHypothesis =>
        cases taken
        obtain ⟨written, rfl, group⟩ := operands_sound word known operandsTaken
        obtain ⟨inside, closing, groups, content, closes, rfl, rfl⟩ :=
          inductionHypothesis read
        exact ⟨token :: written ++ inside, closing, kept :: groups,
          .cons group content, closes, rfl, by simp⟩
    | case7 => cases taken
  · rintro ⟨inside, closing, groups, content, closes, rfl, rfl⟩
    induction content with
    | nil =>
        rw [List.nil_append, transforms]
        simp only [closes, List.flatten_nil]
    | @cons front behind first more head tail inductionHypothesis =>
        obtain ⟨token, written, _, rfl, _⟩ := head.starts
        obtain ⟨word, operator, isWord, known, operandsTaken⟩ :=
          operands_complete head (noNumberAhead_groups tail closes rest)
        rw [List.append_assoc, List.cons_append, transforms]
        simp only [isWord, known]
        split
        · next fault failed =>
            cases operandsTaken.symm.trans failed
        · next kept after read =>
            cases operandsTaken.symm.trans read
            simp only [inductionHypothesis, List.flatten_cons]

/-- A block is read with its braces. -/
theorem block_eq_ok_iff
    {count : Option String}
    {tokens rest : List Token}
    {found : Loop} :
    block count tokens = .ok (found, rest) ↔
      ∃ written transforms,
        WritesBlock written transforms ∧ found = ⟨count, transforms⟩ ∧
          tokens = written ++ rest := by
  constructor
  · intro taken
    unfold block at taken
    split at taken
    · cases taken
    · next behind opened =>
        obtain ⟨opening, opens, rfl⟩ := takeLexeme_eq_ok_iff.mp opened
        split at taken
        · cases taken
        · next inner after read =>
            cases taken
            obtain ⟨inside, closing, groups, content, closes, rfl, rfl⟩ :=
              transforms_eq_ok_iff.mp read
            exact ⟨opening :: inside ++ [closing], groups.flatten,
              .braces opens content closes, rfl, by simp⟩
  · rintro ⟨written, found, writes, rfl, rfl⟩
    cases writes with
    | @braces opening closing inside groups opens content closes =>
        have opened :
            takeLexeme .openBrace .openBrace
              (opening :: inside ++ [closing] ++ rest) =
              .ok (inside ++ closing :: rest) :=
          takeLexeme_eq_ok_iff.mpr ⟨opening, opens, by simp⟩
        have read :
            transforms (inside ++ closing :: rest) =
              .ok (groups.flatten, rest) :=
          transforms_eq_ok_iff.mpr
            ⟨inside, closing, groups, content, closes, rfl, rfl⟩
        simp only [block, opened, read]

/-! Calls. -/

/-- No loop starts in front of the tokens. -/
def NoLoopAhead (tokens : List Token) : Prop :=
  ∀ token ∈ tokens.head?, token.lexeme ≠ .openBrace ∧ ∀ text,
    ¬WritesNumber token text

/-- The loop in front is read as a whole. -/
theorem loopAhead_eq_some_iff
    {tokens rest : List Token}
    {found : Loop} :
    loopAhead tokens = .ok (some (found, rest)) ↔
      ∃ written, WritesLoop written found ∧ tokens = written ++ rest := by
  constructor
  · intro taken
    cases tokens with
    | nil => cases taken
    | cons token behind =>
        simp only [loopAhead] at taken
        split at taken
        · split at taken
          · cases taken
          · next read =>
              cases taken
              obtain ⟨written, found, block, rfl, shape⟩ :=
                block_eq_ok_iff.mp read
              exact ⟨written, .plain block, shape⟩
        · next count number =>
            split at taken
            · cases taken
            · next after starred =>
                obtain ⟨star, times, rfl⟩ := takeLexeme_eq_ok_iff.mp starred
                split at taken
                · cases taken
                · next read =>
                    cases taken
                    obtain ⟨written, found, block, rfl, rfl⟩ :=
                      block_eq_ok_iff.mp read
                    exact ⟨token :: star :: written,
                      .counted number times block, rfl⟩
        · cases taken
  · rintro ⟨written, writes, rfl⟩
    cases writes with
    | @plain _ transforms writesBlock =>
        have read :
            block none (written ++ rest) = .ok (⟨none, transforms⟩, rest) :=
          block_eq_ok_iff.mpr ⟨written, transforms, writesBlock, rfl, rfl⟩
        cases writesBlock with
        | @braces opening closing inside groups opens content closes =>
            simp only [List.cons_append] at read ⊢
            simp only [loopAhead, opens, read]
    | @counted number star written count transforms counts times writesBlock =>
        have read :
            block (some count) (written ++ rest) =
              .ok (⟨some count, transforms⟩, rest) :=
          block_eq_ok_iff.mpr ⟨written, transforms, writesBlock, rfl, rfl⟩
        have starred :
            takeLexeme .star .starAfterCount (star :: (written ++ rest)) =
              .ok (written ++ rest) :=
          takeLexeme_eq_ok_iff.mpr ⟨star, times, rfl⟩
        have isNumber : number.lexeme = .number count := counts
        simp only [List.cons_append, loopAhead, isNumber, starred, read]

/-- No loop is read exactly where none starts. -/
theorem loopAhead_eq_none_iff
    {tokens : List Token} :
    loopAhead tokens = .ok none ↔ NoLoopAhead tokens := by
  cases tokens with
  | nil => simp [loopAhead, NoLoopAhead]
  | cons token behind =>
      simp only [loopAhead, NoLoopAhead, List.head?_cons, Option.mem_def,
        Option.some.injEq, forall_eq']
      split
      · next opens =>
          constructor
          · intro taken
            split at taken <;> cases taken
          · rintro ⟨noBrace, _⟩
            exact (noBrace opens).elim
      · next count number =>
          constructor
          · intro taken
            split at taken
            · cases taken
            · split at taken <;> cases taken
          · rintro ⟨_, noNumber⟩
            exact (noNumber count number).elim
      · next noBrace noNumber =>
          exact ⟨fun _ => ⟨noBrace, noNumber⟩, fun _ => rfl⟩

/-- All loops in front of the tokens are read, one behind the other. -/
theorem loops_eq_ok_iff
    {tokens rest : List Token}
    {chain : List Loop} :
    loops tokens = .ok (chain, rest) ↔
      ∃ front,
        WritesEach WritesLoop front chain ∧ NoLoopAhead rest ∧
          tokens = front ++ rest := by
  constructor
  · intro taken
    fun_induction loops tokens generalizing chain rest with
    | case1 => cases taken
    | case2 tokens ahead =>
        cases taken
        exact ⟨[], .nil, loopAhead_eq_none_iff.mp ahead, rfl⟩
    | case3 => cases taken
    | case4 tokens first behind ahead more after read inductionHypothesis =>
        cases taken
        obtain ⟨written, writes, rfl⟩ := loopAhead_eq_some_iff.mp ahead
        obtain ⟨front, chain, stops, rfl⟩ := inductionHypothesis read
        exact ⟨written ++ front, .cons writes chain, stops, by simp⟩
  · rintro ⟨front, writes, stops, rfl⟩
    induction writes with
    | nil =>
        rw [List.nil_append, loops]
        split
        · next fault failed =>
            cases (loopAhead_eq_none_iff.mpr stops).symm.trans failed
        · rfl
        · next first behind ahead =>
            cases (loopAhead_eq_none_iff.mpr stops).symm.trans ahead
    | @cons written behind first more head tail inductionHypothesis =>
        have ahead :
            loopAhead (written ++ (behind ++ rest)) =
              .ok (some (first, behind ++ rest)) :=
          loopAhead_eq_some_iff.mpr ⟨written, head, rfl⟩
        rw [List.append_assoc, loops]
        split
        · next fault failed =>
            cases ahead.symm.trans failed
        · next none =>
            cases ahead.symm.trans none
        · next loop after some =>
            cases ahead.symm.trans some
            simp only [inductionHypothesis]

/-- A target is read exactly where one stands. -/
theorem target_eq_ok_iff
    {tokens rest : List Token}
    {found : Target} :
    target tokens = .ok (found, rest) ↔
      ∃ token, WritesTarget token found ∧ tokens = token :: rest := by
  constructor
  · intro taken
    unfold target at taken
    split at taken
    · cases taken
    · next word token behind read =>
        obtain ⟨isWord, rfl⟩ := takeWord_eq_ok_iff.mp read
        split at taken
        · next shape canonical =>
            cases taken
            exact ⟨token, .shape isWord canonical, rfl⟩
        · next noShape =>
            split at taken
            · next proper =>
                cases taken
                exact ⟨token, .rule noShape ⟨isWord, proper⟩, rfl⟩
            · cases taken
  · rintro ⟨token, writes, rfl⟩
    cases writes with
    | @shape word shape isWord canonical =>
        have read :
            takeWord .target (token :: rest) = .ok ((word, token), rest) :=
          takeWord_eq_ok_iff.mpr ⟨isWord, rfl⟩
        simp only [target, read, canonical]
    | @rule name noShape names =>
        have read :
            takeWord .target (token :: rest) = .ok ((name, token), rest) :=
          takeWord_eq_ok_iff.mpr ⟨names.1, rfl⟩
        simp only [target, read, noShape, names.2, ↓reduceIte]

/-- A target is a word, so no loop starts there. -/
theorem WritesTarget.isWord
    {token : Token}
    {found : Target}
    (writes : WritesTarget token found) :
    ∃ word, token.lexeme = .word word := by
  cases writes with
  | shape isWord _ => exact ⟨_, isWord⟩
  | rule _ names => exact ⟨_, names.1⟩

/--
The line of the first token does not depend on what follows a non-empty phrase.
-/
theorem firstLine_append
    (front rest : List Token)
    (token : Token) :
    firstLine (front ++ token :: rest) = firstLine (front ++ [token]) := by
  cases front <;> rfl

/-- A call is read up to its target. -/
theorem call_eq_ok_iff
    {tokens rest : List Token}
    {site : CallSite} :
    call tokens = .ok (site, rest) ↔
      ∃ written, WritesCall written site ∧ tokens = written ++ rest := by
  constructor
  · intro taken
    unfold call at taken
    split at taken
    · cases taken
    · next chain behind read =>
        obtain ⟨front, writes, _, rfl⟩ := loops_eq_ok_iff.mp read
        split at taken
        · cases taken
        · next found after targeted =>
            cases taken
            obtain ⟨token, targets, rfl⟩ := target_eq_ok_iff.mp targeted
            rw [firstLine_append]
            exact ⟨front ++ [token], .site writes targets, by simp⟩
  · rintro ⟨written, writes, rfl⟩
    cases writes with
    | @site front token chain found writesLoops targets =>
        obtain ⟨word, isWord⟩ := targets.isWord
        have stops : NoLoopAhead (token :: rest) := by
          intro first isFirst
          cases isFirst
          simp [isWord, WritesNumber]
        have read :
            loops (front ++ token :: rest) = .ok (chain, token :: rest) :=
          loops_eq_ok_iff.mpr ⟨front, writesLoops, stops, rfl⟩
        have targeted : target (token :: rest) = .ok (found, rest) :=
          target_eq_ok_iff.mpr ⟨token, targets, rfl⟩
        rw [List.append_assoc, List.singleton_append]
        simp only [call, read, targeted, firstLine_append]

/-- A call is not empty and does not start with a closing brace. -/
theorem WritesCall.starts
    {written : List Token}
    {site : CallSite}
    (writes : WritesCall written site) :
    ∃ token behind, written = token :: behind ∧ token.lexeme ≠ .closeBrace := by
  cases writes with
  | @site front token chain found writesLoops targets =>
      cases writesLoops with
      | nil =>
          obtain ⟨word, isWord⟩ := targets.isWord
          exact ⟨token, [], rfl, by simp [isWord]⟩
      | cons head tail =>
          cases head with
          | plain writesBlock =>
              cases writesBlock with
              | braces opens _ _ => exact ⟨_, _, rfl, by simp [opens]⟩
          | counted counts _ _ =>
              refine ⟨_, _, rfl, ?_⟩
              simp only [WritesNumber] at counts
              simp [counts]

/-- The calls of a body are read up to its closing brace. -/
theorem body_eq_ok_iff
    {rule : String}
    {tokens rest : List Token}
    {calls : List CallSite} :
    body rule tokens = .ok (calls, rest) ↔
      ∃ inside closing,
        WritesEach WritesCall inside calls ∧ closing.lexeme = .closeBrace ∧
          tokens = inside ++ closing :: rest := by
  constructor
  · intro taken
    fun_induction body rule tokens generalizing calls rest with
    | case1 => cases taken
    | case2 token behind closes =>
        cases taken
        exact ⟨[], token, .nil, closes, rfl⟩
    | case3 => cases taken
    | case4 => cases taken
    | case5 token behind open_ first after read more remaining later
      inductionHypothesis =>
        cases taken
        obtain ⟨written, writes, shape⟩ := call_eq_ok_iff.mp read
        obtain ⟨inside, closing, content, closes, rfl⟩ :=
          inductionHypothesis later
        exact ⟨written ++ inside, closing, .cons writes content, closes, by
          simp [shape]⟩
  · rintro ⟨inside, closing, content, closes, rfl⟩
    induction content with
    | nil =>
        rw [List.nil_append, body]
        simp only [closes, ↓reduceIte]
    | @cons written behind first more head tail inductionHypothesis =>
        have read :
            call (written ++ (behind ++ closing :: rest)) =
              .ok (first, behind ++ closing :: rest) :=
          call_eq_ok_iff.mpr ⟨written, head, rfl⟩
        obtain ⟨token, others, rfl, noBrace⟩ := head.starts
        rw [List.append_assoc, List.cons_append, body]
        rw [List.cons_append] at read
        simp only [noBrace, ↓reduceIte]
        split
        · next fault failed =>
            cases read.symm.trans failed
        · next found after found_ =>
            cases read.symm.trans found_
            simp only [inductionHypothesis]

/-! Rules. -/

/-- A token is one keyword only. -/
theorem Token.isKeyword_unique
    {token : Token}
    {first second : String}
    (isFirst : token.isKeyword first = true)
    (isSecond : token.isKeyword second = true) :
    Text.lower first = Text.lower second := by
  obtain ⟨word, isWord, firstLetters⟩ := Token.isKeyword_iff.mp isFirst
  obtain ⟨other, isOther, secondLetters⟩ := Token.isKeyword_iff.mp isSecond
  cases isWord.symm.trans isOther
  exact firstLetters.symm.trans secondLetters

/-- The tokens do not go on with a successor. -/
def NoSuccessorAhead (tokens : List Token) : Prop :=
  ∀ token ∈ tokens.head?, token.lexeme ≠ .greater

/-- What is read behind a depth keyword makes a depth modifier with it. -/
theorem depthModifier_sound
    {token : Token}
    {tokens rest : List Token}
    {found : String × Option String}
    (keyword : token.isKeyword "md" = true ∨ token.isKeyword "maxdepth" = true)
    (taken : depthModifier tokens = .ok (found, rest)) :
    ∃ written, WritesDepth (token :: written) found ∧
      tokens = written ++ rest := by
  unfold depthModifier at taken
  split at taken
  · cases taken
  · next depth behind numbered =>
      obtain ⟨number, value, rfl⟩ := takeNumber_eq_ok_iff.mp numbered
      split at taken
      · cases taken
        exact ⟨[number], .plain keyword value, rfl⟩
      · next after marked =>
          obtain ⟨mark, marks, rfl⟩ := takeLexeme_eq_ok_iff.mp marked
          split at taken
          · cases taken
          · next successor remaining named =>
              cases taken
              obtain ⟨name, names, rfl⟩ := takeRuleName_eq_ok_iff.mp named
              exact ⟨[number, mark, name],
                .followed keyword value marks names, rfl⟩

/-- A depth modifier is read up to its successor, if it has one. -/
theorem depthModifier_complete
    {token : Token}
    {written rest : List Token}
    {found : String × Option String}
    (writes : WritesDepth (token :: written) found)
    (stops : NoSuccessorAhead rest) :
    depthModifier (written ++ rest) = .ok (found, rest) := by
  cases writes with
  | @plain _ number depth keyword value =>
      have numbered :
          takeNumber .maxDepthValue (number :: rest) = .ok (depth, rest) :=
        takeNumber_eq_ok_iff.mpr ⟨number, value, rfl⟩
      simp only [List.cons_append, List.nil_append, depthModifier, numbered]
      split
      · rfl
      · next behind marked =>
          obtain ⟨mark, marks, rfl⟩ := takeLexeme_eq_ok_iff.mp marked
          exact (stops mark rfl marks).elim
  | @followed _ number mark name depth successor keyword value marks names =>
      have numbered :
          takeNumber .maxDepthValue (number :: mark :: name :: rest) =
            .ok (depth, mark :: name :: rest) :=
        takeNumber_eq_ok_iff.mpr ⟨number, value, rfl⟩
      have marked :
          takeLexeme .greater .successorName (mark :: name :: rest) =
            .ok (name :: rest) :=
        takeLexeme_eq_ok_iff.mpr ⟨mark, marks, rfl⟩
      have named :
          takeRuleName .successorName (name :: rest) = .ok (successor, rest) :=
        takeRuleName_eq_ok_iff.mpr ⟨name, names, rfl⟩
      simp only [List.cons_append, List.nil_append, depthModifier, numbered,
        marked, named]

/--
Modifiers that turn one definition into another, one at a time. A modifier needs
a definition that does not have it yet.
-/
inductive Modifies : RuleDefinition → List Token → RuleDefinition → Prop where
  | done (definition : RuleDefinition) : Modifies definition [] definition
  | depth
      {definition found : RuleDefinition}
      {front behind : List Token}
      {depth : String}
      {successor : Option String}
      (fresh : definition.maxDepth = none)
      (first : WritesDepth front (depth, successor))
      (more : Modifies
        { definition with maxDepth := some depth, successor := successor }
          behind found) :
      Modifies definition (front ++ behind) found
  | weight
      {definition found : RuleDefinition}
      {front behind : List Token}
      {weight : String}
      (fresh : definition.weight = none)
      (first : WritesWeight front weight)
      (more : Modifies { definition with weight := some weight } behind found) :
      Modifies definition (front ++ behind) found

/-- Reading modifiers changes the definition step by step. -/
theorem modifiers_sound
    {definition found : RuleDefinition}
    {tokens rest : List Token}
    (taken : modifiers definition tokens = .ok (found, rest)) :
    ∃ front, Modifies definition front found ∧ tokens = front ++ rest := by
  fun_induction modifiers definition tokens generalizing found rest with
  | case1 => cases taken
  | case2 => cases taken
  | case3 => cases taken
  | case4 definition token behind keyword fresh depth successor after read
      inductionHypothesis =>
      obtain ⟨written, first, rfl⟩ :=
        depthModifier_sound (by simpa using keyword) read
      obtain ⟨front, more, rfl⟩ := inductionHypothesis taken
      exact ⟨token :: written ++ front,
        .depth (by simpa using fresh) first more, by simp⟩
  | case5 => cases taken
  | case6 => cases taken
  | case7 definition token behind depthKeyword keyword fresh weight after read
      inductionHypothesis =>
      obtain ⟨number, value, rfl⟩ := takeNumber_eq_ok_iff.mp read
      obtain ⟨front, more, rfl⟩ := inductionHypothesis taken
      have first : WritesWeight [token, number] weight :=
        .weight (by simpa using keyword) value
      exact ⟨[token, number] ++ front,
        .weight (by simpa using fresh) first more, rfl⟩
  | case8 definition token behind =>
      cases taken
      exact ⟨[], .done definition, rfl⟩

/-- Behind a depth modifier stands another modifier or the brace of the body. -/
theorem Modifies.noSuccessorAhead
    {definition found : RuleDefinition}
    {front : List Token}
    {opening : Token}
    (modifies : Modifies definition front found)
    (opens : opening.lexeme = .openBrace)
    (rest : List Token) :
    NoSuccessorAhead (front ++ opening :: rest) := by
  intro token isFirst greater
  cases modifies with
  | done =>
      cases isFirst
      cases opens.symm.trans greater
  | depth _ first _ =>
      cases first with
      | plain keyword _ =>
          cases isFirst
          rcases keyword with keyword | keyword <;>
            simp [Token.isKeyword, greater] at keyword
      | followed keyword _ _ _ =>
          cases isFirst
          rcases keyword with keyword | keyword <;>
            simp [Token.isKeyword, greater] at keyword
  | weight _ first _ =>
      cases first with
      | weight keyword _ =>
          cases isFirst
          rcases keyword with keyword | keyword <;>
            simp [Token.isKeyword, greater] at keyword

/-- Modifiers are read up to the brace that opens the body. -/
theorem modifiers_complete
    {definition found : RuleDefinition}
    {front : List Token}
    {opening : Token}
    (modifies : Modifies definition front found)
    (opens : opening.lexeme = .openBrace)
    (rest : List Token) :
    modifiers definition (front ++ opening :: rest) =
      .ok (found, opening :: rest) := by
  induction modifies with
  | done definition =>
      rw [List.nil_append, modifiers]
      simp [Token.isKeyword, opens]
  | @depth definition found front behind depth successor fresh first more
      inductionHypothesis =>
      have starts :
          ∃ token written, front = token :: written ∧
            (token.isKeyword "md" = true ∨
              token.isKeyword "maxdepth" = true) := by
        cases first with
        | plain keyword _ => exact ⟨_, _, rfl, keyword⟩
        | followed keyword _ _ _ => exact ⟨_, _, rfl, keyword⟩
      obtain ⟨token, written, rfl, keyword⟩ := starts
      have read :=
        depthModifier_complete first (more.noSuccessorAhead opens rest)
      rw [List.append_assoc, List.cons_append, modifiers]
      simp only [Bool.or_eq_true, keyword, fresh, ↓reduceIte,
        Option.isSome_none, Bool.false_eq_true]
      split
      · next fault failed =>
          cases read.symm.trans failed
      · next after taken =>
          cases read.symm.trans taken
          exact inductionHypothesis
  | @weight definition found front behind weight fresh first more
    inductionHypothesis =>
      cases first with
      | @weight token number _ keyword value =>
          have noDepth : ¬(token.isKeyword "md" = true ∨
              token.isKeyword "maxdepth" = true) := by
            rintro (isDepth | isDepth) <;>
              rcases keyword with isWeight | isWeight <;>
              exact absurd (Token.isKeyword_unique isDepth isWeight) (by decide)
          have read :
              takeNumber .weightValue (number :: (behind ++ opening :: rest)) =
                .ok (weight, behind ++ opening :: rest) :=
            takeNumber_eq_ok_iff.mpr ⟨number, value, rfl⟩
          simp only [List.cons_append, List.nil_append]
          rw [modifiers]
          simp only [Bool.or_eq_true, noDepth, keyword, fresh, ↓reduceIte,
            Option.isSome_none, Bool.false_eq_true]
          split
          · next fault failed =>
              cases read.symm.trans failed
          · next after taken =>
              cases read.symm.trans taken
              exact inductionHypothesis

/--
From a bare definition each kind of modifier is possible once, in any order.
-/
theorem modifies_bare_iff
    {name : String}
    {line : Nat}
    {front : List Token}
    {found : RuleDefinition} :
    Modifies ⟨name, none, none, none, [], line⟩ front found ↔
      ∃ weight depth,
        WritesModifiers front weight depth ∧
          found = ⟨name, weight, depth.map Prod.fst, depth.bind Prod.snd,
            [], line⟩ := by
  constructor
  · intro modifies
    cases modifies with
    | done => exact ⟨none, none, .none, rfl⟩
    | depth _ first more =>
        cases more with
        | done =>
            rw [List.append_nil]
            exact ⟨none, some (_, _), .depth first, rfl⟩
        | depth fresh => cases fresh
        | weight _ second last =>
            cases last with
            | done =>
                rw [List.append_nil]
                exact ⟨some _, some (_, _), .depthThenWeight first second, rfl⟩
            | depth fresh => cases fresh
            | weight fresh => cases fresh
    | weight _ first more =>
        cases more with
        | done =>
            rw [List.append_nil]
            exact ⟨some _, none, .weight first, rfl⟩
        | weight fresh => cases fresh
        | depth _ second last =>
            cases last with
            | done =>
                rw [List.append_nil]
                exact ⟨some _, some (_, _), .weightThenDepth first second, rfl⟩
            | depth fresh => cases fresh
            | weight fresh => cases fresh
  · rintro ⟨weight, depth, writes, rfl⟩
    cases writes with
    | none => exact .done _
    | weight first =>
        simpa using Modifies.weight rfl first (.done _)
    | depth first =>
        simpa using Modifies.depth rfl first (.done _)
    | weightThenDepth first second =>
        simpa using Modifies.weight rfl first (.depth rfl second (.done _))
    | depthThenWeight first second =>
        simpa using Modifies.depth rfl first (.weight rfl second (.done _))

/-- A rule definition is read from its keyword to its closing brace. -/
theorem rule_eq_ok_iff
    {token : Token}
    {tokens rest : List Token}
    {found : RuleDefinition}
    (isRule : token.isKeyword "rule" = true) :
    rule token.place.line tokens = .ok (found, rest) ↔
      ∃ written, WritesRule (token :: written) found ∧
        tokens = written ++ rest := by
  constructor
  · intro taken
    unfold rule at taken
    split at taken
    · cases taken
    · next name behind named =>
        obtain ⟨nameToken, names, rfl⟩ := takeRuleName_eq_ok_iff.mp named
        split at taken
        · cases taken
        · next definition after modified =>
            obtain ⟨front, modifies, rfl⟩ := modifiers_sound modified
            obtain ⟨weight, depth, writes, rfl⟩ := modifies_bare_iff.mp modifies
            split at taken
            · cases taken
            · next inside opened =>
                obtain ⟨opening, opens, rfl⟩ := takeLexeme_eq_ok_iff.mp opened
                split at taken
                · cases taken
                · next calls last read =>
                    cases taken
                    obtain ⟨content, closing, body, closes, rfl⟩ :=
                      body_eq_ok_iff.mp read
                    exact ⟨
                      nameToken :: (front ++ opening :: content ++ [closing]),
                      .definition isRule names writes opens body closes,
                      by simp⟩
  · rintro ⟨written, writes, rfl⟩
    cases writes with
    | @definition _ nameToken opening closing front inside name weight depth
      calls _ names
        writes opens content closes =>
        have named :
            takeRuleName .ruleName
                (nameToken ::
                  (front ++ opening :: (inside ++ closing :: rest))) =
              .ok (name, front ++ opening :: (inside ++ closing :: rest)) :=
          takeRuleName_eq_ok_iff.mpr ⟨nameToken, names, rfl⟩
        have modifies :
            Modifies ⟨name, none, none, none, [], token.place.line⟩ front
              ⟨name, weight, depth.map Prod.fst, depth.bind Prod.snd, [],
                token.place.line⟩ :=
          modifies_bare_iff.mpr ⟨weight, depth, writes, rfl⟩
        have modified :=
          modifiers_complete modifies opens (inside ++ closing :: rest)
        have opened :
            takeLexeme .openBrace .openBrace
              (opening :: (inside ++ closing :: rest)) =
              .ok (inside ++ closing :: rest) :=
          takeLexeme_eq_ok_iff.mpr ⟨opening, opens, rfl⟩
        have read : body name (inside ++ closing :: rest) = .ok (calls, rest) :=
          body_eq_ok_iff.mpr ⟨inside, closing, content, closes, rfl⟩
        simp only [List.cons_append, List.append_assoc, List.nil_append]
        simp only [rule, named, modified, opened, read]

/-! Scripts. -/

/-- A word without colons has no suffix. -/
theorem splitSuffix_of_noColon
    {characters : List Char}
    (noColon : ':' ∉ characters) :
    splitSuffix characters = (characters, []) := by
  fun_induction splitSuffix characters with
  | case1 => rfl
  | case2 => simp at noColon
  | case3 character rest _ base suffix split inductionHypothesis =>
      have restSplit :=
        inductionHypothesis fun member => noColon (.tail character member)
      cases split.symm.trans restSplit
      rfl

/-- A word with a colon keeps it in lower case. -/
theorem mem_colon_of_lower
    {word : String}
    (member : ':' ∈ word.toList) :
    ':' ∈ (Text.lower word).toList := by
  rw [Text.lower, String.toList_ofList]
  exact List.mem_map.mpr ⟨':', member, by decide⟩

/-- A keyword of the top level is neither a shape nor a rule name. -/
theorem not_writesTarget_of_reserved
    {token : Token}
    {found : Target}
    (reserved : token.isKeyword "set" = true ∨ token.isKeyword "rule" = true) :
    ¬WritesTarget token found := by
  have letters :
      ∃ word, token.lexeme = .word word ∧
        (Text.lower word = "set" ∨ Text.lower word = "rule") := by
    rcases reserved with isSet | isRule
    · obtain ⟨word, isWord, letters⟩ := Token.isKeyword_iff.mp isSet
      exact ⟨word, isWord, .inl letters⟩
    · obtain ⟨word, isWord, letters⟩ := Token.isKeyword_iff.mp isRule
      exact ⟨word, isWord, .inr letters⟩
  obtain ⟨word, isWord, letters⟩ := letters
  intro writes
  cases writes with
  | @shape other shape isOther canonical =>
      cases isWord.symm.trans isOther
      have noColon : ':' ∉ word.toList := by
        intro member
        have kept := mem_colon_of_lower member
        rcases letters with letters | letters <;> rw [letters] at kept <;>
          exact absurd kept (by decide)
      simp only [canonicalShape?, splitSuffix_of_noColon noColon] at canonical
      have base :
          String.ofList (word.toList.map Char.toLower) = Text.lower word := rfl
      rw [base] at canonical
      rcases letters with letters | letters <;> rw [letters] at canonical <;>
        simp [shapes] at canonical
  | @rule name _ names =>
      cases isWord.symm.trans names.1
      have proper := names.2
      unfold isRuleName at proper
      split at proper
      · cases proper
      · have lowerSet : Text.lower "set" = "set" := by decide
        have lowerRule : Text.lower "rule" = "rule" := by decide
        rcases letters with letters | letters <;>
          simp [Text.sameLetters, letters, lowerSet, lowerRule] at proper

/-- A call does not start with a keyword of the top level. -/
theorem WritesCall.notReserved
    {token : Token}
    {written : List Token}
    {site : CallSite}
    (writes : WritesCall (token :: written) site) :
    ¬(token.isKeyword "set" = true ∨ token.isKeyword "rule" = true) := by
  intro reserved
  generalize shape : token :: written = tokens at writes
  cases writes with
  | @site front last chain found writesLoops targets =>
      cases writesLoops with
      | nil =>
          cases shape
          exact not_writesTarget_of_reserved reserved targets
      | cons head tail =>
          have isWord : ∃ word, token.lexeme = .word word := by
            rcases reserved with keyword | keyword <;>
              exact ⟨_, (Token.isKeyword_iff.mp keyword).choose_spec.1⟩
          obtain ⟨word, isWord⟩ := isWord
          cases head with
          | plain writesBlock =>
              cases writesBlock with
              | braces opens _ _ =>
                  cases shape
                  cases isWord.symm.trans opens
          | counted counts _ _ =>
              cases shape
              cases isWord.symm.trans counts

/-- A setting is read behind its keyword. -/
theorem setting_eq_ok_iff
    {tokens rest : List Token}
    {value : String} :
    setting tokens = .ok (value, rest) ↔
      ∃ key number,
        (key.isKeyword "maxdepth" = true ∨ key.isKeyword "md" = true) ∧
          WritesNumber number value ∧ tokens = key :: number :: rest := by
  constructor
  · intro taken
    unfold setting at taken
    split at taken
    · cases taken
    · next word key behind read =>
        obtain ⟨isWord, rfl⟩ := takeWord_eq_ok_iff.mp read
        split at taken
        · next depth =>
            obtain ⟨number, values, rfl⟩ := takeNumber_eq_ok_iff.mp taken
            exact ⟨key, number, by
              simpa [Token.isKeyword, isWord] using depth, values, rfl⟩
        · cases taken
  · rintro ⟨key, number, isDepth, values, rfl⟩
    have isWord : ∃ word, key.lexeme = .word word := by
      rcases isDepth with keyword | keyword <;>
        exact ⟨_, (Token.isKeyword_iff.mp keyword).choose_spec.1⟩
    obtain ⟨word, isWord⟩ := isWord
    have read :
        takeWord .settingName (key :: number :: rest) =
          .ok ((word, key), number :: rest) :=
      takeWord_eq_ok_iff.mpr ⟨isWord, rfl⟩
    have depth :
        (Text.sameLetters word "maxdepth" || Text.sameLetters word "md") =
          true := by
      simpa [Token.isKeyword, isWord] using isDepth
    simp only [setting, read, depth, ↓reduceIte]
    exact takeNumber_eq_ok_iff.mpr ⟨number, values, rfl⟩

/-- An item is read as a whole. -/
theorem item_eq_ok_iff
    {token : Token}
    {tokens rest : List Token}
    {found : Item} :
    item token tokens = .ok (found, rest) ↔
      ∃ written, WritesItem (token :: written) found ∧
        tokens = written ++ rest := by
  constructor
  · intro taken
    unfold item at taken
    split at taken
    · next isSet =>
        split at taken
        · cases taken
        · next value behind read =>
            cases taken
            obtain ⟨key, number, isDepth, values, rfl⟩ :=
              setting_eq_ok_iff.mp read
            exact ⟨[key, number], .setting isSet isDepth values, rfl⟩
    · split at taken
      · next isRule =>
          split at taken
          · cases taken
          · next definition behind read =>
              cases taken
              obtain ⟨written, defines, rfl⟩ := (rule_eq_ok_iff isRule).mp read
              exact ⟨written, .rule defines, rfl⟩
      · split at taken
        · cases taken
        · next site behind read =>
            cases taken
            obtain ⟨written, calls, shape⟩ := call_eq_ok_iff.mp read
            obtain ⟨first, others, rfl, _⟩ := calls.starts
            cases shape
            exact ⟨others, .call calls, rfl⟩
  · rintro ⟨written, writes, rfl⟩
    cases writes with
    | @setting _ key number value isSet isDepth values =>
        have read : setting ([key, number] ++ rest) = .ok (value, rest) :=
          setting_eq_ok_iff.mpr ⟨key, number, isDepth, values, rfl⟩
        simp only [item, isSet, ↓reduceIte, read]
    | @rule _ definition defines =>
        have isRule : token.isKeyword "rule" = true := by
          cases defines with
          | definition isRule => exact isRule
        have noSet : ¬token.isKeyword "set" = true := by
          intro isSet
          exact absurd (Token.isKeyword_unique isSet isRule) (by decide)
        have read :
            rule token.place.line (written ++ rest) = .ok (definition, rest) :=
          (rule_eq_ok_iff isRule).mpr ⟨written, defines, rfl⟩
        simp only [item, noSet, isRule, Bool.false_eq_true, ↓reduceIte, read]
    | @call _ site calls =>
        have notReserved := calls.notReserved
        rw [not_or] at notReserved
        have read : call (token :: (written ++ rest)) = .ok (site, rest) :=
          call_eq_ok_iff.mpr ⟨token :: written, calls, rfl⟩
        simp only [item, notReserved.1, notReserved.2, Bool.false_eq_true,
          ↓reduceIte, read]

/-- An item is not empty. -/
theorem WritesItem.starts
    {written : List Token}
    {found : Item}
    (writes : WritesItem written found) :
    ∃ token behind, written = token :: behind := by
  cases writes with
  | setting => exact ⟨_, _, rfl⟩
  | rule defines =>
      cases defines with
      | definition => exact ⟨_, _, rfl⟩
  | call calls =>
      obtain ⟨token, behind, shape, _⟩ := calls.starts
      exact ⟨token, behind, shape⟩

/-- The items of a token list are read one behind the other. -/
theorem items_eq_ok_iff
    {tokens : List Token}
    {parts : List Item} :
    items tokens = .ok parts ↔ WritesEach WritesItem tokens parts := by
  constructor
  · intro taken
    fun_induction items tokens generalizing parts with
    | case1 =>
        cases taken
        exact .nil
    | case2 => cases taken
    | case3 => cases taken
    | case4 token rest first behind read more later inductionHypothesis =>
        cases taken
        obtain ⟨written, writes, rfl⟩ := item_eq_ok_iff.mp read
        exact .cons writes (inductionHypothesis later)
  · intro writes
    induction writes with
    | nil => rw [items]
    | @cons front behind first more head tail inductionHypothesis =>
        obtain ⟨token, written, rfl⟩ := head.starts
        have read : item token (written ++ behind) = .ok (first, behind) :=
          item_eq_ok_iff.mpr ⟨written, head, rfl⟩
        rw [List.cons_append, items]
        split
        · next fault failed =>
            cases read.symm.trans failed
        · next found after taken =>
            cases read.symm.trans taken
            simp only [inductionHypothesis]

/-- A setting behind other items replaces the one before it. -/
theorem ofItems_append_maxDepth
    (parts : List Item)
    (value : String) :
    ofItems (parts ++ [.maxDepth value]) =
      { ofItems parts with maxDepth := some value } := by
  simp [ofItems, List.filterMap_cons, Item.maxDepth?, Item.call?, Item.rule?]

/-- A call behind other items is the last entry call. -/
theorem ofItems_append_call
    (parts : List Item)
    (site : CallSite) :
    ofItems (parts ++ [.call site]) =
      { ofItems parts with entry := (ofItems parts).entry ++ [site] } := by
  simp [ofItems, List.filterMap_cons, Item.maxDepth?, Item.call?, Item.rule?]

/-- A rule behind other items is the last rule. -/
theorem ofItems_append_rule
    (parts : List Item)
    (definition : RuleDefinition) :
    ofItems (parts ++ [.rule definition]) =
      { ofItems parts with
        rules := (ofItems parts).rules ++ [definition] } := by
  simp [ofItems, List.filterMap_cons, Item.maxDepth?, Item.call?, Item.rule?]

/-- Items make up one script, the one that is returned. -/
theorem gathers_iff
    {parts : List Item}
    {script : Script} :
    Gathers parts script ↔ script = ofItems parts := by
  constructor
  · intro gathers
    induction gathers with
    | nil => rfl
    | setting earlier value inductionHypothesis =>
        rw [ofItems_append_maxDepth, inductionHypothesis]
    | call earlier site inductionHypothesis =>
        rw [ofItems_append_call, inductionHypothesis]
    | rule earlier definition inductionHypothesis =>
        rw [ofItems_append_rule, inductionHypothesis]
  · rintro rfl
    induction parts using List.reverseRecOn with
    | nil => exact .nil
    | append_singleton earlier last inductionHypothesis =>
        cases last with
        | maxDepth value =>
            rw [ofItems_append_maxDepth]
            exact inductionHypothesis.setting value
        | call site =>
            rw [ofItems_append_call]
            exact inductionHypothesis.call site
        | rule definition =>
            rw [ofItems_append_rule]
            exact inductionHypothesis.rule definition

/-- A script has an entry call exactly where one of its items is a call. -/
theorem ofItems_entry_isEmpty_iff
    {parts : List Item} :
    (ofItems parts).entry.isEmpty = false ↔ ∃ site, Item.call site ∈ parts := by
  rw [List.isEmpty_eq_false_iff]
  constructor
  · intro someEntry
    obtain ⟨site, member⟩ := List.exists_mem_of_ne_nil _ someEntry
    obtain ⟨part, partMember, isCall⟩ := List.mem_filterMap.mp member
    cases part with
    | call other => exact ⟨other, partMember⟩
    | maxDepth => cases isCall
    | rule => cases isCall
  · rintro ⟨site, member⟩
    exact List.ne_nil_of_mem (List.mem_filterMap.mpr ⟨.call site, member, rfl⟩)

/--
The tokens that are accepted are exactly those that write a script, and the
result is the script that they write.
-/
theorem ofTokens_eq_ok_iff_writesScript
    (tokens : List Token)
    (script : Script) :
    ofTokens tokens = .ok script ↔ WritesScript tokens script := by
  constructor
  · intro taken
    unfold ofTokens at taken
    split at taken
    · cases taken
    · next parts read =>
        split at taken
        · cases taken
        · next entry =>
            cases taken
            exact .script (items_eq_ok_iff.mp read) (gathers_iff.mpr rfl)
              (ofItems_entry_isEmpty_iff.mp (by simpa using entry))
  · rintro ⟨writes, gathers, entry⟩
    have read := items_eq_ok_iff.mpr writes
    have someEntry := ofItems_entry_isEmpty_iff.mpr entry
    simp only [ofTokens, read, someEntry, Bool.false_eq_true, ↓reduceIte,
      gathers_iff.mp gathers]

end Script

end Eisen
