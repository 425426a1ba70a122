import Eisen.Proofs.Script.Writing

namespace Eisen.Script

/-!
# What a fault says about the rest of the input

Readers look at one token at a time and never go back. A reader that meets the
end of the tokens could therefore have gone on: some continuation completes the
phrase. Any other fault is found at a token and is final: whatever follows that
token, the fault stays the same.

Each reader gets one statement, its verdict, which covers both kinds of faults.
-/

/-! Verdicts. -/

/--
A fault of a phrase, with the token at which it is found. A fault that has a
place has the place of this token.
-/
inductive Fault.IsAt : Fault → Token → Prop
  | unexpected
      (token : Token)
      (expected : Expected) :
      IsAt (.unexpected token.place expected token.lexeme) token
  | unknownTransform
      {token : Token}
      {text : String}
      (isWord : token.lexeme = .word text) :
      IsAt (.unknownTransform token.place (Text.lower text)) token
  | duplicateDepth
      {token : Token}
      (line : Nat)
      (rule : String)
      (keyword :
        token.isKeyword "md" = true ∨ token.isKeyword "maxdepth" = true) :
      IsAt (.duplicateModifier line rule .maxDepth) token
  | duplicateWeight
      {token : Token}
      (line : Nat)
      (rule : String)
      (keyword : token.isKeyword "w" = true ∨ token.isKeyword "weight" = true) :
      IsAt (.duplicateModifier line rule .weight) token

/--
What a fault of a reader says about the tokens. `Complete` are the tokens of
complete phrases, and `Found` says at which tokens a fault may be found.
-/
inductive Verdict
    {α : Type}
    (Found : Fault → Token → Prop)
    (Complete : List Token → Prop)
    (read : List Token → Except Fault α) :
    List Token → Fault → Prop
  | unfinished
      {tokens : List Token}
      {expected : Expected}
      (more : List Token)
      (completes : Complete (tokens ++ more)) :
      Verdict Found Complete read tokens (.unexpectedEnd expected)
  | final
      {front rest : List Token}
      {token : Token}
      {fault : Fault}
      (found : Found fault token)
      (stays : ∀ other, read (front ++ token :: other) = .error fault) :
      Verdict Found Complete read (front ++ token :: rest) fault

/-- Token lists that start with the same token, or are both empty. -/
def SameHead (first second : List Token) : Prop :=
  first.head? = second.head?

/--
A verdict on what stands behind some tokens is a verdict on all of them, for a
reader that hands the fault on.
-/
theorem Verdict.behind
    {α β : Type}
    {Found : Fault → Token → Prop}
    {Complete CompletePart : List Token → Prop}
    {read : List Token → Except Fault α}
    {readPart : List Token → Except Fault β}
    {rest : List Token}
    {fault : Fault}
    (verdict : Verdict Found CompletePart readPart rest fault)
    (before : List Token)
    (stays : ∀ other, SameHead other rest →
      readPart other = .error fault → read (before ++ other) = .error fault)
    (completes : ∀ written, CompletePart written →
      ∃ others, Complete (before ++ (written ++ others))) :
    Verdict Found Complete read (before ++ rest) fault := by
  cases verdict with
  | unfinished more complete =>
      obtain ⟨others, whole⟩ := completes _ complete
      refine .unfinished (more ++ others) ?_
      simpa only [List.append_assoc] using whole
  | @final front rest token _ found stillFails =>
      -- The tokens still start in the same way, so the part is still read.
      rw [← List.append_assoc]
      refine .final found fun other => ?_
      rw [List.append_assoc]
      refine stays _ ?_ (stillFails other)
      cases front <;> rfl

/-- A verdict on the last part of a phrase is a verdict on the phrase. -/
theorem Verdict.last
    {α β : Type}
    {Found : Fault → Token → Prop}
    {Complete CompletePart : List Token → Prop}
    {read : List Token → Except Fault α}
    {readPart : List Token → Except Fault β}
    {rest : List Token}
    {fault : Fault}
    (verdict : Verdict Found CompletePart readPart rest fault)
    (before : List Token)
    (stays : ∀ other, SameHead other rest →
      readPart other = .error fault → read (before ++ other) = .error fault)
    (completes :
      ∀ written, CompletePart written → Complete (before ++ written)) :
    Verdict Found Complete read (before ++ rest) fault := by
  refine verdict.behind before stays fun written complete => ⟨[], ?_⟩
  rw [List.append_nil]
  exact completes written complete

/-- A verdict on the first part of a phrase is a verdict on the phrase. -/
theorem Verdict.first
    {α β : Type}
    {Found : Fault → Token → Prop}
    {Complete CompletePart : List Token → Prop}
    {read : List Token → Except Fault α}
    {readPart : List Token → Except Fault β}
    {tokens : List Token}
    {fault : Fault}
    (verdict : Verdict Found CompletePart readPart tokens fault)
    (stays : ∀ other, SameHead other tokens →
      readPart other = .error fault → read other = .error fault)
    (completes : ∀ written, CompletePart written → ∃ others,
      Complete (written ++ others)) :
    Verdict Found Complete read tokens fault :=
  verdict.behind [] stays completes

/-- A verdict on the only part of a phrase is a verdict on the phrase. -/
theorem Verdict.whole
    {α β : Type}
    {Found : Fault → Token → Prop}
    {Complete CompletePart : List Token → Prop}
    {read : List Token → Except Fault α}
    {readPart : List Token → Except Fault β}
    {tokens : List Token}
    {fault : Fault}
    (verdict : Verdict Found CompletePart readPart tokens fault)
    (stays : ∀ other, SameHead other tokens →
      readPart other = .error fault → read other = .error fault)
    (completes : ∀ written, CompletePart written → Complete written) :
    Verdict Found Complete read tokens fault :=
  verdict.last [] stays completes

/-- The verdict on a fault that is found at the first token. -/
theorem Verdict.atHead
    {α : Type}
    {Found : Fault → Token → Prop}
    {Complete : List Token → Prop}
    {read : List Token → Except Fault α}
    {token : Token}
    {fault : Fault}
    (found : Found fault token)
    (stays : ∀ other, read (token :: other) = .error fault)
    (rest : List Token) :
    Verdict Found Complete read (token :: rest) fault :=
  @Verdict.final _ _ _ _ [] _ _ _ found stays

theorem WritesEach.single
    {α : Type}
    {Writes : List Token → α → Prop}
    {written : List Token}
    {found : α}
    (writes : Writes written found) :
    WritesEach Writes written [found] := by
  have each := WritesEach.cons writes .nil
  rwa [List.append_nil] at each

/-!
Readers that call themselves, one step at a time: what the step reads, then the
same reader on what is left.
-/

/-- The groups of a block are its first group and the others. -/
theorem transforms_word
    {token : Token}
    {word : String}
    {operator : Operator}
    (isWord : token.lexeme = .word word)
    (known : Operator.ofKeyword? (Text.lower word) = some operator)
    (rest : List Token) :
    transforms (token :: rest) =
      (operands (Text.lower word) rest operator).bind fun found =>
        (transforms found.2).map fun later =>
          (found.1 ++ later.1, later.2) := by
  rw [transforms]
  simp only [isWord, known]
  split
  · next refused =>
      rw [refused]
      rfl
  · next kept behind taken =>
      rw [taken, Except.bind]
      cases transforms behind <;> rfl

/-- The loops of a call are its first loop and the others. -/
theorem loops_eq (tokens : List Token) :
    loops tokens =
      (loopAhead tokens).bind fun ahead =>
        ahead.elim (.ok ([], tokens)) fun found =>
          (loops found.2).map fun later => (found.1 :: later.1, later.2) := by
  rw [loops]
  split
  · next refused =>
      rw [refused]
      rfl
  · next none =>
      rw [none]
      rfl
  · next first rest taken =>
      rw [taken, Except.bind, Option.elim]
      cases loops rest <;> rfl

/-- The calls of a body are its first call and the others. -/
theorem body_call
    {token : Token}
    (noBrace : ¬token.lexeme = .closeBrace)
    (name : String)
    (rest : List Token) :
    body name (token :: rest) =
      (call (token :: rest)).bind fun found =>
        (body name found.2).map fun later => (found.1 :: later.1, later.2) := by
  rw [body, if_neg noBrace]
  split
  · next refused =>
      rw [refused]
      rfl
  · next first behind taken =>
      rw [taken, Except.bind]
      cases body name behind <;> rfl

/-- A depth modifier is taken if there is none yet. -/
theorem modifiers_depth
    {definition : RuleDefinition}
    {token : Token}
    (keyword : (token.isKeyword "md" || token.isKeyword "maxdepth") = true)
    (fresh : ¬definition.maxDepth.isSome = true)
    (rest : List Token) :
    modifiers definition (token :: rest) =
      (depthModifier rest).bind fun found =>
        modifiers
          { definition with maxDepth := some found.1.1, successor := found.1.2 }
            found.2 := by
  rw [modifiers, if_pos keyword, if_neg fresh]
  split
  · next refused =>
      rw [refused]
      rfl
  · next taken =>
      rw [taken]
      rfl

/-- A weight modifier is taken if there is none yet. -/
theorem modifiers_weight
    {definition : RuleDefinition}
    {token : Token}
    (noDepth : ¬(token.isKeyword "md" || token.isKeyword "maxdepth") = true)
    (keyword : (token.isKeyword "w" || token.isKeyword "weight") = true)
    (fresh : ¬definition.weight.isSome = true)
    (rest : List Token) :
    modifiers definition (token :: rest) =
      (takeNumber .weightValue rest).bind fun found =>
        modifiers { definition with weight := some found.1 } found.2 := by
  rw [modifiers, if_neg noDepth, if_pos keyword, if_neg fresh]
  split
  · next refused =>
      rw [refused]
      rfl
  · next taken =>
      rw [taken]
      rfl

theorem items_cons
    (token : Token)
    (rest : List Token) :
    items (token :: rest) =
      (item token rest).bind fun found =>
        (items found.2).map (found.1 :: ·) := by
  rw [items]
  split
  · next refused =>
      rw [refused]
      rfl
  · next part behind taken =>
      rw [taken, Except.bind]
      cases items behind <;> rfl

/-! Single tokens. -/

/-- A list of one token of some kind. -/
def IsToken
    (Kind : Token → Prop)
    (tokens : List Token) : Prop :=
  ∃ token, Kind token ∧ tokens = [token]

/-- The verdict of a reader that takes one token. -/
theorem verdict_of_single
    {α : Type}
    {Kind : Token → Prop}
    {read : List Token → Except Fault α}
    {tokens : List Token}
    {fault : Fault}
    {expected : Expected}
    (failed : read tokens = .error fault)
    (atEnd : read [] = .error (.unexpectedEnd expected))
    (possible : ∃ token, Kind token)
    (refused : ∀ token rest, read (token :: rest) = .error fault →
      fault = token.unexpected expected ∧
        ∀ other, read (token :: other) = .error fault) :
    Verdict Fault.IsAt (IsToken Kind) read tokens fault := by
  cases tokens with
  | nil =>
      cases atEnd.symm.trans failed
      obtain ⟨token, kind⟩ := possible
      exact .unfinished [token] ⟨token, kind, rfl⟩
  | cons token rest =>
      obtain ⟨rfl, stays⟩ := refused token rest failed
      exact .atHead (.unexpected token expected) stays rest

/-- A lexeme is missed at the end, or another token stands in its place. -/
theorem takeLexeme_verdict
    {lexeme : Lexeme}
    {expected : Expected}
    {tokens : List Token}
    {fault : Fault}
    (failed : takeLexeme lexeme expected tokens = .error fault) :
    Verdict Fault.IsAt (IsToken (·.lexeme = lexeme))
      (takeLexeme lexeme expected) tokens fault := by
  refine verdict_of_single failed rfl ⟨⟨lexeme, Place.start⟩, rfl⟩
    fun token rest refused => ?_
  simp only [takeLexeme] at refused ⊢
  split at refused
  · cases refused
  · next other =>
      cases refused
      exact ⟨rfl, fun _ => if_neg other⟩

/-- A number is missed at the end, or another token stands in its place. -/
theorem takeNumber_verdict
    {expected : Expected}
    {tokens : List Token}
    {fault : Fault}
    (failed : takeNumber expected tokens = .error fault) :
    Verdict Fault.IsAt (IsToken fun token => ∃ text, WritesNumber token text)
      (takeNumber expected) tokens fault := by
  refine verdict_of_single failed rfl ⟨⟨.number "0", Place.start⟩, "0", rfl⟩
    fun token rest refused => ?_
  simp only [takeNumber] at refused ⊢
  split at refused
  · cases refused
  · cases refused
    exact ⟨rfl, fun _ => rfl⟩

/-- Whether a word is taken depends on the first token only. -/
theorem takeWord_cons
    (expected : Expected)
    (token : Token) :
    (∃ text, token.lexeme = .word text ∧
      ∀ rest, takeWord expected (token :: rest) = .ok ((text, token), rest)) ∨
    ∀ rest, takeWord expected (token :: rest) =
      .error (token.unexpected expected) := by
  by_cases isWord : ∃ text, token.lexeme = .word text
  · obtain ⟨text, isWord⟩ := isWord
    exact .inl ⟨text, isWord, fun rest => takeWord_eq_ok_iff.mpr ⟨isWord, rfl⟩⟩
  · refine .inr fun rest => ?_
    simp only [takeWord]
    split
    · next text word => exact absurd ⟨text, word⟩ isWord
    · rfl

/--
Which word completes the tokens depends on what it is read for, so its
kind is left open.
-/
theorem takeWord_verdict
    {Kind : Token → Prop}
    {expected : Expected}
    {tokens : List Token}
    {fault : Fault}
    (possible : ∃ token, Kind token)
    (failed : takeWord expected tokens = .error fault) :
    Verdict Fault.IsAt (IsToken Kind) (takeWord expected) tokens fault := by
  refine verdict_of_single failed rfl possible fun token rest refused => ?_
  rcases takeWord_cons expected token with ⟨text, -, read⟩ | read
  · cases (read rest).symm.trans refused
  · cases (read rest).symm.trans refused
    exact ⟨rfl, read⟩

/-- A rule name is missed at the end, or another token stands in its place. -/
theorem takeRuleName_verdict
    {expected : Expected}
    {tokens : List Token}
    {fault : Fault}
    (failed : takeRuleName expected tokens = .error fault) :
    Verdict Fault.IsAt (IsToken fun token => ∃ name, WritesName token name)
      (takeRuleName expected) tokens fault := by
  refine verdict_of_single failed rfl
    ⟨⟨.word "a", Place.start⟩, "a", rfl, by decide⟩
    fun token rest refused => ?_
  rcases takeWord_cons expected token with ⟨name, -, read⟩ | read
  · simp only [takeRuleName, read] at refused ⊢
    split at refused
    · cases refused
    · next improper =>
        cases refused
        exact ⟨rfl, fun _ => if_neg improper⟩
  · simp only [takeRuleName, read] at refused ⊢
    cases refused
    exact ⟨rfl, fun _ => rfl⟩

theorem takeColour_verdict
    {tokens : List Token}
    {fault : Fault}
    (failed : takeColour tokens = .error fault) :
    Verdict Fault.IsAt (IsToken WritesColour) takeColour tokens fault := by
  refine verdict_of_single failed rfl
    ⟨⟨.number "0", Place.start⟩, .inr ⟨"0", rfl⟩⟩
    fun token rest refused => ?_
  simp only [takeColour] at refused ⊢
  split at refused <;> cases refused
  exact ⟨rfl, fun _ => rfl⟩

/-- A token that completes a call. -/
def boxToken : Token :=
  ⟨.word "box", Place.start⟩

theorem writesTarget_boxToken : WritesTarget boxToken (.shape "box") :=
  .shape rfl (by decide)

/-- A target is missed at the end, or another token stands in its place. -/
theorem target_verdict
    {tokens : List Token}
    {fault : Fault}
    (failed : target tokens = .error fault) :
    Verdict Fault.IsAt (IsToken fun token => ∃ found, WritesTarget token found)
      target tokens fault := by
  refine verdict_of_single failed rfl ⟨boxToken, _, writesTarget_boxToken⟩
    fun token rest refused => ?_
  rcases takeWord_cons .target token with ⟨word, -, read⟩ | read
  · simp only [target, read] at refused ⊢
    split at refused
    · cases refused
    · split at refused
      · cases refused
      · next improper =>
          cases refused
          exact ⟨rfl, fun _ => if_neg improper⟩
  · simp only [target, read] at refused ⊢
    cases refused
    exact ⟨rfl, fun _ => rfl⟩

/-! Blocks. -/

/--
The numbers of an operator are missed at the end, or another token stands in
their place.
-/
theorem operatorNumbers_verdict
    {keyword : String}
    {tokens : List Token}
    {fault : Fault}
    (failed : operatorNumbers keyword tokens = .error fault) :
    Verdict Fault.IsAt (fun written => ∃ texts, WritesNumbers written texts)
      (operatorNumbers keyword) tokens fault := by
  unfold operatorNumbers at failed
  split at failed
  · next refused =>
      cases failed
      refine (takeNumber_verdict refused).whole (fun other _ fails => ?_) ?_
      · simp only [operatorNumbers, fails]
      · rintro _ ⟨token, ⟨text, number⟩, rfl⟩
        refine ⟨[text], ?_, List.cons_ne_nil _ _⟩
        rw [List.map_singleton, List.map_singleton, number]
  · cases failed

theorem NoNumberAhead.of_sameHead
    {tokens other : List Token}
    (stops : NoNumberAhead tokens)
    (same : SameHead other tokens) :
    NoNumberAhead other := by
  rw [SameHead] at same
  rwa [NoNumberAhead, same]

/-- How many numbers are taken depends on the token behind them only. -/
theorem operatorNumbers_local
    {keyword : String}
    {written rest other : List Token}
    {values : List String}
    (taken : operatorNumbers keyword (written ++ rest) = .ok (values, rest))
    (same : SameHead other rest) :
    operatorNumbers keyword (written ++ other) = .ok (values, other) := by
  obtain ⟨front, numbers, stops, whole⟩ := operatorNumbers_eq_ok_iff.mp taken
  obtain rfl := List.append_cancel_right whole
  exact operatorNumbers_eq_ok_iff.mpr
    ⟨written, numbers, stops.of_sameHead same, rfl⟩

/-- What an operator takes depends on no more than the next token. -/
theorem operands_local
    {token : Token}
    {word : String}
    {operator : Operator}
    {rest behind : List Token}
    {kept : List Transform}
    (isWord : token.lexeme = .word word)
    (known : Operator.ofKeyword? (Text.lower word) = some operator)
    (taken : operands (Text.lower word) rest operator = .ok (kept, behind)) :
    ∃ written, rest = written ++ behind ∧ WritesGroup (token :: written) kept ∧
      ∀ other, SameHead other behind →
        operands (Text.lower word) (written ++ other) operator =
          .ok (kept, other) := by
  obtain ⟨written, rfl, group⟩ := operands_sound isWord known taken
  refine ⟨written, rfl, group, fun other same => ?_⟩
  cases operator with
  | geometric kind =>
      simp only [operands] at taken
      split at taken
      · cases taken
      · next values after numbersTaken =>
          cases taken
          simp only [operands, operatorNumbers_local numbersTaken same]
  | shading =>
      simp only [operands] at taken
      split at taken
      · cases taken
      · next values after numbersTaken =>
          cases taken
          simp only [operands, operatorNumbers_local numbersTaken same]
  | colour =>
      simp only [operands] at taken
      split at taken
      · cases taken
      · next after colourTaken =>
          cases taken
          obtain ⟨value, colour, shape⟩ := takeColour_eq_ok_iff.mp colourTaken
          obtain rfl : written = [value] := List.append_cancel_right shape
          simp only [operands,
            takeColour_eq_ok_iff.mpr ⟨value, colour, List.singleton_append⟩]
  | blend =>
      simp only [operands] at taken
      split at taken
      · cases taken
      · next after colourTaken =>
          split at taken
          · cases taken
          · next text remaining numberTaken =>
              cases taken
              obtain ⟨value, colour, shape⟩ :=
                takeColour_eq_ok_iff.mp colourTaken
              obtain ⟨strength, number, rfl⟩ :=
                takeNumber_eq_ok_iff.mp numberTaken
              obtain rfl : written = [value, strength] :=
                List.append_cancel_right shape
              simp only [operands, List.cons_append, List.nil_append,
                takeColour_eq_ok_iff.mpr ⟨value, colour, rfl⟩,
                takeNumber_eq_ok_iff.mpr ⟨strength, number, rfl⟩]

/--
The operands of an operator are missed at the end, or another token stands in
their place.
-/
theorem operands_verdict
    {token : Token}
    {word : String}
    {operator : Operator}
    {rest : List Token}
    {fault : Fault}
    (isWord : token.lexeme = .word word)
    (known : Operator.ofKeyword? (Text.lower word) = some operator)
    (failed : operands (Text.lower word) rest operator = .error fault) :
    Verdict Fault.IsAt
      (fun written => ∃ kept, WritesGroup (token :: written) kept)
      (fun tokens => operands (Text.lower word) tokens operator)
      rest fault := by
  have called := Operator.ofKeyword?_eq_some_iff.mp known
  cases operator with
  | geometric kind =>
      have keyword : token.isKeyword kind.keyword = true :=
        Token.isKeyword_of_lower isWord called.symm kind.lower_keyword
      simp only [operands] at failed
      split at failed
      · next refused =>
          cases failed
          refine (operatorNumbers_verdict refused).whole
            (fun other _ fails => ?_) ?_
          · simp only [operands, fails]
          · rintro written ⟨texts, numbers⟩
            exact ⟨_, .geometric kind keyword numbers⟩
      · cases failed
  | shading =>
      have keyword : token.isKeyword (Text.lower word) = true :=
        Token.isKeyword_of_lower isWord rfl (lower_shadingKeyword called)
      simp only [operands] at failed
      split at failed
      · next refused =>
          cases failed
          refine (operatorNumbers_verdict refused).whole
            (fun other _ fails => ?_) ?_
          · simp only [operands, fails]
          · rintro written ⟨texts, numbers⟩
            exact ⟨_, .shading called keyword numbers⟩
      · cases failed
  | colour =>
      have keyword : token.isKeyword "color" = true :=
        Token.isKeyword_of_lower isWord called (by decide)
      simp only [operands] at failed
      split at failed
      · next refused =>
          cases failed
          refine (takeColour_verdict refused).whole (fun other _ fails => ?_) ?_
          · simp only [operands, fails]
          · rintro _ ⟨value, colour, rfl⟩
            exact ⟨_, .colour keyword colour⟩
      · cases failed
  | blend =>
      have keyword : token.isKeyword "blend" = true :=
        Token.isKeyword_of_lower isWord called (by decide)
      have strength : WritesNumber ⟨.number "0", Place.start⟩ "0" := rfl
      simp only [operands] at failed
      split at failed
      · next refused =>
          cases failed
          refine (takeColour_verdict refused).first (fun other _ fails => ?_) ?_
          · simp only [operands, fails]
          · rintro _ ⟨value, colour, rfl⟩
            exact ⟨[_], _, .blend keyword colour strength⟩
      · next after colourTaken =>
          obtain ⟨value, colour, rfl⟩ := takeColour_eq_ok_iff.mp colourTaken
          split at failed
          · next refused =>
              cases failed
              refine (takeNumber_verdict refused).last [value]
                (fun other _ fails => ?_) ?_
              · have again : takeColour ([value] ++ other) = .ok other :=
                  takeColour_eq_ok_iff.mpr ⟨value, colour, rfl⟩
                simp only [operands, again, fails]
              · rintro _ ⟨number, ⟨text, isNumber⟩, rfl⟩
                exact ⟨_, .blend keyword colour isNumber⟩
          · cases failed

/-- A token that starts a block or a body. -/
def openingToken : Token :=
  ⟨.openBrace, Place.start⟩

/-- A token that completes a block or a body. -/
def closingToken : Token :=
  ⟨.closeBrace, Place.start⟩

/--
The tokens behind an opening brace, with phrases of one kind up to
the closing brace.
-/
def EndsBraces
    {α : Type}
    (Writes : List Token → α → Prop)
    (tokens : List Token) : Prop :=
  ∃ inside closing found, WritesEach Writes inside found ∧
    closing.lexeme = .closeBrace ∧ tokens = inside ++ [closing]

namespace EndsBraces

variable {α : Type} {Writes : List Token → α → Prop}

theorem empty : EndsBraces Writes [closingToken] :=
  ⟨[], closingToken, [], .nil, rfl, rfl⟩

theorem cons
    {front behind : List Token}
    {first : α}
    (writes : Writes front first)
    (ends : EndsBraces Writes behind) :
    EndsBraces Writes (front ++ behind) := by
  obtain ⟨inside, closing, found, content, closes, rfl⟩ := ends
  exact ⟨_, closing, _, .cons writes content, closes,
    (List.append_assoc ..).symm⟩

end EndsBraces

theorem transforms_verdict
    {tokens : List Token}
    {fault : Fault}
    (failed : transforms tokens = .error fault) :
    Verdict Fault.IsAt (EndsBraces WritesGroup) transforms tokens fault := by
  fun_induction transforms tokens generalizing fault with
  | case1 =>
      cases failed
      exact .unfinished [closingToken] .empty
  | case2 => cases failed
  | case3 token rest text isWord unknown =>
      cases failed
      refine .atHead (.unknownTransform isWord) (fun other => ?_) rest
      rw [transforms]
      simp only [isWord, unknown]
  | case4 token rest text isWord operator known first refused =>
      cases failed
      refine (operands_verdict isWord known refused).behind [token]
        (fun other _ fails => ?_) ?_
      · simp only [List.singleton_append, transforms_word isWord known, fails,
          Except.bind]
      · rintro written ⟨kept, group⟩
        have ends := EndsBraces.cons group .empty
        exact ⟨[closingToken], ends⟩
  | case5 token rest text isWord operator known kept behind taken first refused
      inductionHypothesis =>
      cases failed
      obtain ⟨written, rfl, group, again⟩ := operands_local isWord known taken
      refine (inductionHypothesis refused).last (token :: written)
        (fun other same fails => ?_) ?_
      · simp only [List.cons_append, transforms_word isWord known,
          again other same, fails, Except.bind, Except.map]
      · intro _ ends
        exact .cons group ends
  | case6 => cases failed
  | case7 token rest noBrace noWord =>
      cases failed
      refine .atHead (.unexpected token .transformOrClose)
        (fun other => ?_) rest
      rw [transforms]
      split
      · next closes => exact absurd closes noBrace
      · next word => exact absurd word (noWord _)
      · rfl

/-- A block is complete once its braces are closed. -/
theorem exists_writesBlock
    {opening : Token}
    {behind : List Token}
    (opens : opening.lexeme = .openBrace)
    (ends : EndsBraces WritesGroup behind) :
    ∃ found, WritesBlock (opening :: behind) found := by
  obtain ⟨inside, closing, groups, content, closes, rfl⟩ := ends
  exact ⟨_, .braces opens content closes⟩

/-- A block with its braces ends too early, or a token in it is final. -/
theorem block_verdict
    {count : Option String}
    {tokens : List Token}
    {fault : Fault}
    (failed : block count tokens = .error fault) :
    Verdict Fault.IsAt (fun written => ∃ found, WritesBlock written found)
      (block count) tokens fault := by
  unfold block at failed
  split at failed
  · next refused =>
      cases failed
      refine (takeLexeme_verdict refused).first (fun other _ fails => ?_) ?_
      · simp only [block, fails]
      · rintro _ ⟨opening, opens, rfl⟩
        exact ⟨[closingToken], exists_writesBlock opens .empty⟩
  · next rest opened =>
      obtain ⟨opening, opens, rfl⟩ := takeLexeme_eq_ok_iff.mp opened
      split at failed
      · next refused =>
          cases failed
          refine (transforms_verdict refused).last [opening]
            (fun other _ fails => ?_) ?_
          · have again : takeLexeme .openBrace .openBrace ([opening] ++ other) =
                .ok other :=
              takeLexeme_eq_ok_iff.mpr ⟨opening, opens, rfl⟩
            simp only [block, again, fails]
          · intro _ ends
            exact exists_writesBlock opens ends
      · cases failed

/-! Calls. -/

theorem NoLoopAhead.of_sameHead
    {tokens other : List Token}
    (stops : NoLoopAhead tokens)
    (same : SameHead other tokens) :
    NoLoopAhead other := by
  rw [SameHead] at same
  rwa [NoLoopAhead, same]

/-- A loop that is ahead ends too early, or a token in it is final. -/
theorem loopAhead_verdict
    {tokens : List Token}
    {fault : Fault}
    (failed : loopAhead tokens = .error fault) :
    Verdict Fault.IsAt (fun written => ∃ found, WritesLoop written found)
      loopAhead tokens fault := by
  cases tokens with
  | nil => cases failed
  | cons token rest =>
      simp only [loopAhead] at failed
      split at failed
      · next opens =>
          split at failed
          · next refused =>
              cases failed
              refine (block_verdict refused).whole
                (fun other same fails => ?_) ?_
              · obtain ⟨others, rfl⟩ := List.head?_eq_some_iff.mp same
                simp only [loopAhead, opens, fails]
              · rintro written ⟨found, block⟩
                exact ⟨_, .plain block⟩
          · cases failed
      · next count number =>
          split at failed
          · next refused =>
              cases failed
              refine (takeLexeme_verdict refused).behind [token]
                (fun other _ fails => ?_) ?_
              · simp only [List.singleton_append, loopAhead, number, fails]
              · rintro _ ⟨star, times, rfl⟩
                obtain ⟨found, block⟩ :=
                  @exists_writesBlock openingToken _ rfl .empty
                exact ⟨_, _, .counted number times block⟩
          · next behind starred =>
              obtain ⟨star, times, rfl⟩ := takeLexeme_eq_ok_iff.mp starred
              split at failed
              · next refused =>
                  cases failed
                  refine (block_verdict refused).last [token, star]
                    (fun other _ fails => ?_) ?_
                  · have again : takeLexeme .star .starAfterCount
                        (star :: other) = .ok other :=
                      takeLexeme_eq_ok_iff.mpr ⟨star, times, rfl⟩
                    simp only [List.cons_append, List.nil_append, loopAhead,
                      number, again, fails]
                  · rintro written ⟨found, block⟩
                    exact ⟨_, .counted number times block⟩
              · cases failed
      · cases failed

/-- Loops end too early, or a token in them is final. -/
theorem loops_verdict
    {tokens : List Token}
    {fault : Fault}
    (failed : loops tokens = .error fault) :
    Verdict Fault.IsAt
      (fun written => ∃ chain, WritesEach WritesLoop written chain)
      loops tokens fault := by
  fun_induction loops tokens generalizing fault with
  | case1 tokens first refused =>
      cases failed
      refine (loopAhead_verdict refused).whole (fun other _ fails => ?_) ?_
      · simp only [loops_eq other, fails, Except.bind]
      · rintro written ⟨found, writes⟩
        exact ⟨_, .single writes⟩
  | case2 => cases failed
  | case3 tokens loop rest ahead first refused inductionHypothesis =>
      cases failed
      obtain ⟨front, writes, rfl⟩ := loopAhead_eq_some_iff.mp ahead
      refine (inductionHypothesis refused).last front
        (fun other _ fails => ?_) ?_
      · have again : loopAhead (front ++ other) = .ok (some (loop, other)) :=
          loopAhead_eq_some_iff.mpr ⟨front, writes, rfl⟩
        simp only [loops_eq (front ++ other), again, fails, Except.bind,
          Option.elim, Except.map]
      · rintro written ⟨chain, more⟩
        exact ⟨_, .cons writes more⟩
  | case4 => cases failed

/-- A call ends too early, or a token in it is final. -/
theorem call_verdict
    {tokens : List Token}
    {fault : Fault}
    (failed : call tokens = .error fault) :
    Verdict Fault.IsAt
      (fun written => ∃ site, WritesCall written site) call tokens fault := by
  unfold call at failed
  split at failed
  · next refused =>
      cases failed
      refine (loops_verdict refused).first (fun other _ fails => ?_) ?_
      · simp only [call, fails]
      · rintro written ⟨chain, writes⟩
        exact ⟨[boxToken], _, .site writes writesTarget_boxToken⟩
  · next chain rest read =>
      obtain ⟨front, writes, stops, rfl⟩ := loops_eq_ok_iff.mp read
      split at failed
      · next refused =>
          cases failed
          refine (target_verdict refused).last front
            (fun other same fails => ?_) ?_
          · -- The token at which the loops ended is still there.
            have again : loops (front ++ other) = .ok (chain, other) :=
              loops_eq_ok_iff.mpr ⟨front, writes, stops.of_sameHead same, rfl⟩
            simp only [call, again, fails]
          · rintro _ ⟨token, ⟨found, targets⟩, rfl⟩
            exact ⟨_, .site writes targets⟩
      · cases failed

/-- A body ends too early, or a token in it is final. -/
theorem body_verdict
    {name : String}
    {tokens : List Token}
    {fault : Fault}
    (failed : body name tokens = .error fault) :
    Verdict Fault.IsAt (EndsBraces WritesCall) (body name) tokens fault := by
  fun_induction body name tokens generalizing fault with
  | case1 =>
      cases failed
      exact .unfinished [closingToken] .empty
  | case2 => cases failed
  | case3 token rest noBrace first refused =>
      cases failed
      refine (call_verdict refused).first (fun other same fails => ?_) ?_
      · obtain ⟨others, rfl⟩ := List.head?_eq_some_iff.mp same
        simp only [body_call noBrace, fails, Except.bind]
      · rintro written ⟨site, writes⟩
        exact ⟨[closingToken], .cons writes .empty⟩
  | case4 token rest noBrace site behind read first refused
    inductionHypothesis =>
      cases failed
      obtain ⟨written, writes, whole⟩ := call_eq_ok_iff.mp read
      rw [whole]
      refine (inductionHypothesis refused).last written
        (fun other _ fails => ?_) ?_
      · have again : call (written ++ other) = .ok (site, other) :=
          call_eq_ok_iff.mpr ⟨written, writes, rfl⟩
        obtain ⟨head, others, rfl, headNoBrace⟩ := writes.starts
        rw [List.cons_append] at again ⊢
        simp only [body_call headNoBrace, again, fails, Except.bind, Except.map]
      · intro _ ends
        exact .cons writes ends
  | case5 => cases failed

/-! Rules. -/

/--
A depth modifier is read in the same way before every list that starts with the
same token: only that token decides whether a successor is named.
-/
theorem depthModifier_local
    {token : Token}
    {tokens rest : List Token}
    {found : String × Option String}
    (keyword : token.isKeyword "md" = true ∨ token.isKeyword "maxdepth" = true)
    (taken : depthModifier tokens = .ok (found, rest)) :
    ∃ written, WritesDepth (token :: written) found ∧ tokens = written ++ rest ∧
      ∀ other, SameHead other rest →
        depthModifier (written ++ other) = .ok (found, other) := by
  unfold depthModifier at taken
  split at taken
  · cases taken
  · next depth behind numbered =>
      obtain ⟨number, value, rfl⟩ := takeNumber_eq_ok_iff.mp numbered
      split at taken
      · next refused =>
          cases taken
          have first : WritesDepth [token, number] (depth, none) :=
            .plain keyword value
          refine ⟨[number], first, rfl, fun other same => ?_⟩
          refine depthModifier_complete first fun mark isFirst marks => ?_
          obtain ⟨others, rfl⟩ :=
            List.head?_eq_some_iff.mp (same.symm.trans isFirst)
          cases refused.symm.trans (takeLexeme_eq_ok_iff.mpr ⟨mark, marks, rfl⟩)
      · next after marked =>
          obtain ⟨mark, marks, rfl⟩ := takeLexeme_eq_ok_iff.mp marked
          split at taken
          · cases taken
          · next successor remaining named =>
              cases taken
              obtain ⟨name, names, rfl⟩ := takeRuleName_eq_ok_iff.mp named
              refine ⟨[number, mark, name], .followed keyword value marks names,
                rfl, fun other _ => ?_⟩
              simp only [List.cons_append, List.nil_append, depthModifier,
                takeNumber_eq_ok_iff.mpr ⟨number, value, rfl⟩,
                takeLexeme_eq_ok_iff.mpr ⟨mark, marks, rfl⟩,
                takeRuleName_eq_ok_iff.mpr ⟨name, names, rfl⟩]

/-- A depth modifier ends too early, or a token in it is final. -/
theorem depthModifier_verdict
    {token : Token}
    {tokens : List Token}
    {fault : Fault}
    (keyword : token.isKeyword "md" = true ∨ token.isKeyword "maxdepth" = true)
    (failed : depthModifier tokens = .error fault) :
    Verdict Fault.IsAt
      (fun written => ∃ found, WritesDepth (token :: written) found)
      depthModifier tokens fault := by
  unfold depthModifier at failed
  split at failed
  · next refused =>
      cases failed
      refine (takeNumber_verdict refused).whole (fun other _ fails => ?_) ?_
      · simp only [depthModifier, fails]
      · rintro _ ⟨number, ⟨depth, value⟩, rfl⟩
        exact ⟨_, .plain keyword value⟩
  · next depth behind numbered =>
      obtain ⟨number, value, rfl⟩ := takeNumber_eq_ok_iff.mp numbered
      split at failed
      · cases failed
      · next after marked =>
          obtain ⟨mark, marks, rfl⟩ := takeLexeme_eq_ok_iff.mp marked
          split at failed
          · next refused =>
              cases failed
              refine (takeRuleName_verdict refused).last [number, mark]
                (fun other _ fails => ?_) ?_
              · simp only [List.cons_append, List.nil_append, depthModifier,
                  takeNumber_eq_ok_iff.mpr ⟨number, value, rfl⟩,
                  takeLexeme_eq_ok_iff.mpr ⟨mark, marks, rfl⟩, fails]
              · rintro _ ⟨name, ⟨successor, names⟩, rfl⟩
                exact ⟨_, .followed keyword value marks names⟩
          · cases failed

/-- The tokens of modifiers, up to the brace that opens the body. -/
def EndsModifiers
    (definition : RuleDefinition)
    (tokens : List Token) : Prop :=
  ∃ front found opening, Modifies definition front found ∧
    opening.lexeme = .openBrace ∧ tokens = front ++ [opening]

/-- Which modifiers are taken depends on the token behind them only. -/
theorem modifiers_local
    {definition found : RuleDefinition}
    {tokens rest : List Token}
    (taken : modifiers definition tokens = .ok (found, rest)) :
    ∃ front, Modifies definition front found ∧ tokens = front ++ rest ∧
      ∀ other, SameHead other rest →
        modifiers definition (front ++ other) = .ok (found, other) := by
  fun_induction modifiers definition tokens generalizing found rest with
  | case1 => cases taken
  | case2 => cases taken
  | case3 => cases taken
  | case4 definition token behind keyword fresh depth successor after read
      inductionHypothesis =>
      obtain ⟨written, first, rfl, again⟩ :=
        depthModifier_local (by simpa using keyword) read
      obtain ⟨front, more, rfl, later⟩ := inductionHypothesis taken
      refine ⟨token :: written ++ front,
        .depth (by simpa using fresh) first more, by simp, fun other same => ?_⟩
      -- The next modifier, or else the next token, shows that no successor
      -- follows.
      have sameAhead : SameHead (front ++ other) (front ++ rest) := by
        cases front with
        | nil => exact same
        | cons => rfl
      simp only [List.append_assoc, List.cons_append,
        modifiers_depth keyword fresh, again _ sameAhead, Except.bind,
        later other same]
  | case5 => cases taken
  | case6 => cases taken
  | case7 definition token behind noDepth keyword fresh weight after read
      inductionHypothesis =>
      obtain ⟨number, value, rfl⟩ := takeNumber_eq_ok_iff.mp read
      obtain ⟨front, more, rfl, later⟩ := inductionHypothesis taken
      have first : WritesWeight [token, number] weight :=
        .weight (by simpa using keyword) value
      refine ⟨[token, number] ++ front,
        .weight (by simpa using fresh) first more, rfl, fun other same => ?_⟩
      have again : takeNumber .weightValue (number :: (front ++ other)) =
          .ok (weight, front ++ other) :=
        takeNumber_eq_ok_iff.mpr ⟨number, value, rfl⟩
      simp only [List.cons_append, List.nil_append,
        modifiers_weight noDepth keyword fresh, again, Except.bind,
        later other same]
  | case8 definition token behind noDepth noWeight =>
      cases taken
      refine ⟨[], .done definition, rfl, fun other same => ?_⟩
      obtain ⟨others, rfl⟩ := List.head?_eq_some_iff.mp same
      rw [List.nil_append, modifiers, if_neg noDepth, if_neg noWeight]

/-- Modifiers end too early, or a token in them is final. -/
theorem modifiers_verdict
    {definition : RuleDefinition}
    {tokens : List Token}
    {fault : Fault}
    (failed : modifiers definition tokens = .error fault) :
    Verdict Fault.IsAt (EndsModifiers definition)
      (modifiers definition) tokens fault := by
  fun_induction modifiers definition tokens generalizing fault with
  | case1 definition =>
      cases failed
      exact .unfinished [openingToken]
        ⟨[], definition, openingToken, .done _, rfl, rfl⟩
  | case2 definition token behind keyword present =>
      cases failed
      refine .atHead (.duplicateDepth _ _ (by simpa using keyword))
        (fun other => ?_) _
      rw [modifiers, if_pos keyword, if_pos present]
  | case3 definition token behind keyword fresh first refused =>
      cases failed
      have isDepth :
          token.isKeyword "md" = true ∨ token.isKeyword "maxdepth" = true := by
        simpa using keyword
      refine (depthModifier_verdict isDepth refused).behind [token]
        (fun other _ fails => ?_) ?_
      · simp only [List.singleton_append, modifiers_depth keyword fresh, fails,
          Except.bind]
      · rintro written ⟨⟨depth, successor⟩, writes⟩
        exact ⟨[openingToken], _, _, openingToken,
          .depth (by simpa using fresh) writes (.done _), rfl, by simp⟩
  | case4 definition token behind keyword fresh depth successor after read
      inductionHypothesis =>
      obtain ⟨written, first, rfl, again⟩ :=
        depthModifier_local (by simpa using keyword) read
      refine (inductionHypothesis failed).last (token :: written)
        (fun other same fails => ?_) ?_
      · simp only [List.cons_append, modifiers_depth keyword fresh,
          again other same, fails, Except.bind]
      · rintro _ ⟨front, found, opening, more, opens, rfl⟩
        exact ⟨_, found, opening, .depth (by simpa using fresh) first more,
          opens, by simp⟩
  | case5 definition token behind noDepth keyword present =>
      cases failed
      refine .atHead (.duplicateWeight _ _ (by simpa using keyword))
        (fun other => ?_) _
      rw [modifiers, if_neg noDepth, if_pos keyword, if_pos present]
  | case6 definition token behind noDepth keyword fresh first refused =>
      cases failed
      refine (takeNumber_verdict refused).behind [token]
        (fun other _ fails => ?_) ?_
      · simp only [List.singleton_append,
          modifiers_weight noDepth keyword fresh, fails, Except.bind]
      · rintro _ ⟨number, ⟨weight, value⟩, rfl⟩
        exact ⟨[openingToken], _, _, openingToken,
          .weight (by simpa using fresh)
            (.weight (by simpa using keyword) value) (.done _),
          rfl, by simp⟩
  | case7 definition token behind noDepth keyword fresh weight after read
      inductionHypothesis =>
      obtain ⟨number, value, rfl⟩ := takeNumber_eq_ok_iff.mp read
      refine (inductionHypothesis failed).last [token, number]
        (fun other _ fails => ?_) ?_
      · have again :
            takeNumber .weightValue (number :: other) = .ok (weight, other) :=
          takeNumber_eq_ok_iff.mpr ⟨number, value, rfl⟩
        simp only [List.cons_append, List.nil_append,
          modifiers_weight noDepth keyword fresh, again, fails, Except.bind]
      · rintro _ ⟨front, found, opening, more, opens, rfl⟩
        exact ⟨_, found, opening,
          .weight (by simpa using fresh)
            (.weight (by simpa using keyword) value) more,
          opens, rfl⟩
  | case8 => cases failed

/-- A rule is complete once its body is. -/
theorem exists_writesRule
    {token nameToken opening : Token}
    {front behind : List Token}
    {name : String}
    {weight : Option String}
    {depth : Option (String × Option String)}
    (isRule : token.isKeyword "rule" = true)
    (names : WritesName nameToken name)
    (modified : WritesModifiers front weight depth)
    (opens : opening.lexeme = .openBrace)
    (ends : EndsBraces WritesCall behind) :
    ∃ definition, WritesRule
      (token :: nameToken :: (front ++ opening :: behind)) definition := by
  obtain ⟨inside, closing, calls, content, closes, rfl⟩ := ends
  have whole := WritesRule.definition isRule names modified opens content closes
  rw [List.append_assoc, List.cons_append] at whole
  exact ⟨_, whole⟩

/-- A rule ends too early, or a token in it is final. -/
theorem rule_verdict
    {token : Token}
    {tokens : List Token}
    {fault : Fault}
    (isRule : token.isKeyword "rule" = true)
    (failed : rule token.place.line tokens = .error fault) :
    Verdict Fault.IsAt
      (fun written => ∃ definition, WritesRule (token :: written) definition)
      (rule token.place.line) tokens fault := by
  unfold rule at failed
  split at failed
  · next refused =>
      cases failed
      refine (takeRuleName_verdict refused).first (fun other _ fails => ?_) ?_
      · simp only [rule, fails]
      · rintro _ ⟨nameToken, ⟨name, names⟩, rfl⟩
        exact ⟨[openingToken, closingToken],
          exists_writesRule isRule names .none rfl .empty⟩
  · next name behind named =>
      obtain ⟨nameToken, names, rfl⟩ := takeRuleName_eq_ok_iff.mp named
      have namedAgain : ∀ other,
          takeRuleName .ruleName (nameToken :: other) = .ok (name, other) :=
        fun other => takeRuleName_eq_ok_iff.mpr ⟨nameToken, names, rfl⟩
      split at failed
      · next refused =>
          cases failed
          refine (modifiers_verdict refused).behind [nameToken]
            (fun other _ fails => ?_) ?_
          · simp only [List.singleton_append, rule, namedAgain, fails]
          · rintro _ ⟨front, found, opening, modifies, opens, rfl⟩
            obtain ⟨weight, depth, writes, -⟩ := modifies_bare_iff.mp modifies
            refine ⟨[closingToken], ?_⟩
            rw [List.append_assoc]
            exact exists_writesRule isRule names writes opens .empty
      · next definition after modified =>
          obtain ⟨front, modifies, rfl, modifiedAgain⟩ :=
            modifiers_local modified
          obtain ⟨weight, depth, writes, -⟩ := modifies_bare_iff.mp modifies
          split at failed
          · next refused =>
              cases failed
              refine (takeLexeme_verdict refused).behind (nameToken :: front)
                (fun other same fails => ?_) ?_
              · simp only [List.cons_append, rule, namedAgain,
                  modifiedAgain other same, fails]
              · rintro _ ⟨opening, opens, rfl⟩
                exact ⟨[closingToken],
                  exists_writesRule isRule names writes opens .empty⟩
          · next inside opened =>
              obtain ⟨opening, opens, rfl⟩ := takeLexeme_eq_ok_iff.mp opened
              split at failed
              · next refused =>
                  cases failed
                  have split : nameToken :: (front ++ opening :: inside) =
                      (nameToken :: (front ++ [opening])) ++ inside := by
                    simp
                  rw [split]
                  refine (body_verdict refused).last
                    _ (fun other _ fails => ?_) ?_
                  · have openedAgain :
                        takeLexeme .openBrace .openBrace (opening :: other) =
                          .ok other :=
                      takeLexeme_eq_ok_iff.mpr ⟨opening, opens, rfl⟩
                    simp only [List.cons_append, List.append_assoc,
                      List.nil_append, rule, namedAgain,
                      modifiedAgain (opening :: other) rfl, openedAgain, fails]
                  · intro written ends
                    rw [List.cons_append, List.append_assoc]
                    exact exists_writesRule isRule names writes opens ends
              · cases failed

/-! Scripts. -/

/-- A fault of a script, with the token at which it is found. -/
inductive Fault.Reports : Fault → Token → Prop
  | phrase
      {fault : Fault}
      {token : Token}
      (isAt : fault.IsAt token) :
      Reports fault token
  | setting
      {token : Token}
      {key : String}
      (isWord : token.lexeme = .word key) :
      Reports (.unknownSetting token.place.line key) token

/-- A verdict on a phrase that is a verdict on a part of a script. -/
theorem Verdict.reports
    {α : Type}
    {Complete : List Token → Prop}
    {read : List Token → Except Fault α}
    {tokens : List Token}
    {fault : Fault}
    (verdict : Verdict Fault.IsAt Complete read tokens fault) :
    Verdict Fault.Reports Complete read tokens fault := by
  cases verdict with
  | unfinished more completes => exact .unfinished more completes
  | final found stays => exact .final (.phrase found) stays

/-- A setting ends too early, or a token in it is final. -/
theorem setting_verdict
    {token : Token}
    {tokens : List Token}
    {fault : Fault}
    (isSet : token.isKeyword "set" = true)
    (failed : setting tokens = .error fault) :
    Verdict Fault.Reports
      (fun written => ∃ found, WritesItem (token :: written) found)
      setting tokens fault := by
  unfold setting at failed
  split at failed
  · next refused =>
      cases failed
      have possible : ∃ key : Token, key.isKeyword "md" = true :=
        ⟨⟨.word "md", Place.start⟩, by decide⟩
      refine (takeWord_verdict possible refused).reports.first
        (fun other _ fails => ?_) ?_
      · simp only [setting, fails]
      · rintro _ ⟨key, isDepth, rfl⟩
        exact ⟨[⟨.number "0", Place.start⟩], _,
          .setting isSet (.inr isDepth) rfl⟩
  · next word key behind read =>
      obtain ⟨isWord, rfl⟩ := takeWord_eq_ok_iff.mp read
      have again : ∀ other,
          takeWord .settingName (key :: other) = .ok ((word, key), other) :=
        fun other => takeWord_eq_ok_iff.mpr ⟨isWord, rfl⟩
      split at failed
      · next depth =>
          have isDepth :
              key.isKeyword "maxdepth" = true ∨ key.isKeyword "md" = true := by
            simpa [Token.isKeyword, isWord] using depth
          refine (takeNumber_verdict failed).reports.last [key]
            (fun other _ fails => ?_) ?_
          · simp only [List.singleton_append, setting, again,
              if_pos depth, fails]
          · rintro _ ⟨number, ⟨value, values⟩, rfl⟩
            exact ⟨_, .setting isSet isDepth values⟩
      · next noDepth =>
          cases failed
          refine .atHead (.setting isWord) (fun other => ?_) _
          simp only [setting, again, if_neg noDepth]

/-- The items of a script end too early, or a token in them is final. -/
theorem items_verdict
    {tokens : List Token}
    {fault : Fault}
    (failed : items tokens = .error fault) :
    Verdict Fault.Reports
      (fun written => ∃ parts, WritesEach WritesItem written parts)
      items tokens fault := by
  fun_induction items tokens generalizing fault with
  | case1 => cases failed
  | case2 token rest first refused =>
      cases failed
      unfold item at refused
      split at refused
      · next isSet =>
          split at refused
          · next unset =>
              cases refused
              refine (setting_verdict isSet unset).last [token]
                (fun other _ fails => ?_) ?_
              · simp only [List.singleton_append, items_cons, item, isSet,
                  ↓reduceIte, fails, Except.bind]
              · rintro written ⟨found, writes⟩
                exact ⟨_, .single writes⟩
          · cases refused
      · next noSet =>
          split at refused
          · next isRule =>
              split at refused
              · next undefined =>
                  cases refused
                  refine (rule_verdict isRule undefined).reports.last [token]
                    (fun other _ fails => ?_) ?_
                  · simp only [List.singleton_append, items_cons, item, noSet,
                      isRule, Bool.false_eq_true, ↓reduceIte, fails,
                      Except.bind]
                  · rintro written ⟨definition, defines⟩
                    exact ⟨_, .single (.rule defines)⟩
              · cases refused
          · next noRule =>
              split at refused
              · next uncalled =>
                  cases refused
                  refine (call_verdict uncalled).reports.whole
                    (fun other same fails => ?_) ?_
                  · obtain ⟨others, rfl⟩ := List.head?_eq_some_iff.mp same
                    simp only [items_cons, item, noSet, noRule,
                      Bool.false_eq_true, ↓reduceIte, fails, Except.bind]
                  · rintro written ⟨site, calls⟩
                    exact ⟨_, .single (.call calls)⟩
              · cases refused
  | case3 token rest part behind read first refused inductionHypothesis =>
      cases failed
      obtain ⟨written, writes, rfl⟩ := item_eq_ok_iff.mp read
      refine (inductionHypothesis refused).last (token :: written)
        (fun other _ fails => ?_) ?_
      · have again : item token (written ++ other) = .ok (part, other) :=
          item_eq_ok_iff.mpr ⟨written, writes, rfl⟩
        simp only [List.cons_append, items_cons, again, fails,
          Except.bind, Except.map]
      · rintro _ ⟨parts, more⟩
        exact ⟨_, .cons writes more⟩
  | case4 => cases failed

/-- A fault that only says that the tokens end too early. -/
def Fault.IsEarlyEnd : Fault → Prop
  | .unexpectedEnd _ => True
  | .emptyEntry => True
  | _ => False

theorem Fault.Reports.not_isEarlyEnd
    {fault : Fault}
    {token : Token}
    (reports : fault.Reports token) :
    ¬fault.IsEarlyEnd := by
  cases reports with
  | phrase isAt => cases isAt <;> exact id
  | setting => exact id

theorem ofTokens_of_items_error
    {tokens : List Token}
    {fault : Fault}
    (failed : items tokens = .error fault) :
    ofTokens tokens = .error fault := by
  simp only [ofTokens, failed]

/-- Items become a script with one more call. -/
theorem exists_script_of_items
    {tokens : List Token}
    {parts : List Item}
    (writes : WritesEach WritesItem tokens parts) :
    ∃ script, ofTokens (tokens ++ [boxToken]) = .ok script := by
  obtain ⟨site, calls⟩ : ∃ site, WritesCall [boxToken] site :=
    ⟨_, .site .nil writesTarget_boxToken⟩
  have read := items_eq_ok_iff.mpr (writes.append (.single (.call calls)))
  have someEntry : (ofItems (parts ++ [.call site])).entry.isEmpty = false :=
    ofItems_entry_isEmpty_iff.mpr ⟨site, by simp⟩
  refine ⟨ofItems (parts ++ [.call site]), ?_⟩
  simp only [ofTokens, read, someEntry, Bool.false_eq_true, ↓reduceIte]

/--
A fault of a token list is final exactly where it is not an early end. An early
end is undone by some continuation. Any other fault is found at a token, and
every list with the same tokens up to this one has the same fault.
-/
theorem fault_is_final_unless_early_end
    {tokens : List Token}
    {fault : Fault}
    (failed : ofTokens tokens = .error fault) :
    (fault.IsEarlyEnd ↔ ∃ more script, ofTokens (tokens ++ more) = .ok script) ∧
      (¬fault.IsEarlyEnd →
        ∃ front token rest,
          tokens = front ++ token :: rest ∧
            fault.Reports token ∧
            ∀ other, ofTokens (front ++ token :: other) = .error fault) := by
  have readItems := failed
  unfold ofTokens at readItems
  split at readItems
  · next refused =>
      cases readItems
      cases items_verdict refused with
      | unfinished more completes =>
          obtain ⟨parts, writes⟩ := completes
          obtain ⟨script, accepted⟩ := exists_script_of_items writes
          rw [List.append_assoc] at accepted
          exact ⟨iff_of_true trivial ⟨_, script, accepted⟩,
            fun final => absurd trivial final⟩
      | @final front rest token _ found stays =>
          have fails :
              ∀ other, ofTokens (front ++ token :: other) = .error fault :=
            fun other => ofTokens_of_items_error (stays other)
          refine ⟨iff_of_false found.not_isEarlyEnd ?_,
            fun _ => ⟨front, token, rest, rfl, found, fails⟩⟩
          rintro ⟨more, script, accepted⟩
          rw [List.append_assoc, List.cons_append] at accepted
          cases (fails _).symm.trans accepted
  · next parts read =>
      split at readItems
      · -- All items are complete, and only an entry call is missing.
        cases readItems
        obtain ⟨script, accepted⟩ :=
          exists_script_of_items (items_eq_ok_iff.mp read)
        exact ⟨iff_of_true trivial ⟨_, script, accepted⟩,
          fun final => absurd trivial final⟩
      · cases readItems

/--
A rule without its closing brace can be completed. In a block, a word that is no
transformation stays a fault, and so does a star where a block is due.
-/
theorem fault_is_final_behind_unknown_transform :
    (∃ more script,
      ofTokens
        ([⟨.word "rule", ⟨1, 1⟩⟩, ⟨.word "R", ⟨1, 6⟩⟩,
            ⟨.openBrace, ⟨1, 8⟩⟩] ++ more) =
          .ok script) ∧
      (∃ front token rest,
        [⟨.openBrace, ⟨1, 1⟩⟩, ⟨.word "Bend", ⟨1, 3⟩⟩, ⟨.number "1", ⟨1, 8⟩⟩] =
            front ++ token :: rest ∧
          Fault.Reports (.unknownTransform ⟨1, 3⟩ "bend") token ∧
          ∀ other, ofTokens (front ++ token :: other) =
            .error (.unknownTransform ⟨1, 3⟩ "bend")) ∧
      ∃ front token rest,
        [⟨.word "box", ⟨1, 1⟩⟩, ⟨.number "2", ⟨2, 1⟩⟩, ⟨.star, ⟨2, 3⟩⟩,
          ⟨.star, ⟨2, 4⟩⟩, ⟨.word "box", ⟨2, 6⟩⟩] =
            front ++ token :: rest ∧
          Fault.Reports (.unexpected ⟨2, 4⟩ .openBrace .star) token ∧
          ∀ other, ofTokens (front ++ token :: other) =
            .error (.unexpected ⟨2, 4⟩ .openBrace .star) := by
  have early : ofTokens
      [⟨.word "rule", ⟨1, 1⟩⟩, ⟨.word "R", ⟨1, 6⟩⟩, ⟨.openBrace, ⟨1, 8⟩⟩] =
      .error (.unexpectedEnd (.ruleEnd "R")) := by
    decide +kernel
  have unknown : ofTokens
      [⟨.openBrace, ⟨1, 1⟩⟩, ⟨.word "Bend", ⟨1, 3⟩⟩, ⟨.number "1", ⟨1, 8⟩⟩] =
      .error (.unknownTransform ⟨1, 3⟩ "bend") := by
    decide +kernel
  have second : ofTokens
      [⟨.word "box", ⟨1, 1⟩⟩, ⟨.number "2", ⟨2, 1⟩⟩, ⟨.star, ⟨2, 3⟩⟩,
        ⟨.star, ⟨2, 4⟩⟩, ⟨.word "box", ⟨2, 6⟩⟩] =
      .error (.unexpected ⟨2, 4⟩ .openBrace .star) := by
    decide +kernel
  exact ⟨(fault_is_final_unless_early_end early).1.mp trivial,
    (fault_is_final_unless_early_end unknown).2 id,
    (fault_is_final_unless_early_end second).2 id⟩

end Eisen.Script
