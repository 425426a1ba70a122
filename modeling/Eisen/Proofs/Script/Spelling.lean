import Eisen.Proofs.Script.Reading
import Mathlib.Data.List.TakeWhile
import Mathlib.Tactic.SplitIfs

namespace Eisen

/-!
# The spelling of names and numbers in scripts

Scanning leaves only certain characters in words and numbers, and reading puts
only rule names and shapes into targets. This module carries both facts from the
source text to every part of the script that is read from it.
-/

namespace Script

/-! Characters of tokens. -/

/-- The letters are those of ASCII. -/
theorem isAlpha_iff (character : Char) :
    character.isAlpha = true ↔
      65 ≤ character.toNat ∧ character.toNat ≤ 90 ∨
        97 ≤ character.toNat ∧ character.toNat ≤ 122 := by
  change (decide (65 ≤ character.val ∧ character.val ≤ 90) ||
    (decide (97 ≤ character.val) && decide (character.val ≤ 122))) = true ↔ _
  simp only [Bool.or_eq_true, Bool.and_eq_true, decide_eq_true_eq,
    UInt32.le_iff_toNat_le]
  rfl

/-- The characters of numbers. -/
def isNumeric (character : Char) : Bool :=
  isNumberCharacter character || character == '*'

theorem mem_of_isNumeric
    {character : Char}
    (numeric : isNumeric character = true) :
    character ∈ "0123456789.+-/()*".toList := by
  simpa [isNumeric, isNumberCharacter, or_assoc] using numeric

theorem not_isBlank_of_isNumeric
    {character : Char}
    (numeric : isNumeric character = true) :
    Text.isBlank character = false := by
  have checked : "0123456789.+-/()*".toList.all (!Text.isBlank ·) = true := by
    decide
  simpa using List.all_eq_true.mp checked character (mem_of_isNumeric numeric)

/--
A text as scanning leaves it in a number: one that is scanned as a whole
number by itself.
-/
structure IsNumberText (text : String) : Prop where
  starts : ∃ first ∈ text.toList.head?, startsNumber first = true
  run : numberRun text.toList = text.toList

/--
What scanning leaves in a lexeme. A word may start with a character of its own.
-/
def Lexeme.IsScanned : Lexeme → Prop
  | .word text =>
      ∀ character ∈ text.toList.tail, Text.isWordCharacter character = true
  | .number text => IsNumberText text
  | _ => True

/-- The run of a number has characters of numbers only. -/
theorem isNumeric_of_mem_numberRun
    {text : List Char}
    {character : Char}
    (member : character ∈ numberRun text) :
    isNumeric character = true := by
  induction text with
  | nil => cases member
  | cons first rest inductionHypothesis =>
      rw [numberRun] at member
      split at member
      · next belongs =>
          rcases List.mem_cons.mp member with rfl | inRest
          · simp only [Bool.or_eq_true, Bool.and_eq_true] at belongs
            rcases belongs with always | ⟨star, -⟩
            · simp [isNumeric, always]
            · simp [isNumeric, star]
          · exact inductionHypothesis inRest
      · cases member

/-- What starts a number may continue it. -/
theorem isNumberCharacter_of_startsNumber
    {character : Char}
    (starts : startsNumber character = true) :
    isNumberCharacter character = true := by
  have digits :
      ∀ code < 58, 48 ≤ code → isNumberCharacter (Char.ofNat code) = true := by
    decide +kernel
  rcases Bool.or_eq_true_iff.mp starts with digit | sign
  · obtain ⟨lower, upper⟩ := Char.isDigit_iff_toNat.mp digit
    have read := digits character.toNat (Nat.lt_succ_of_le upper) lower
    rwa [Char.ofNat_toNat] at read
  · have signs : ".+-(".toList.all isNumberCharacter = true := by decide
    exact List.all_eq_true.mp signs character (by simpa using sign)

/-- An operand that a `*` joins to a number is part of the number. -/
theorem startsOperand_numberRun
    {text : List Char}
    (operand : startsOperand text = true) :
    startsOperand (numberRun text) = true := by
  cases text with
  | nil => cases operand
  | cons character rest =>
      have starts : startsNumber character = true := by
        simp only [startsOperand, Bool.or_eq_true] at operand
        rcases operand with digit | sign
        · simp [startsNumber, digit]
        · have signs : "(.".toList.all startsNumber = true := by decide
          exact List.all_eq_true.mp signs character (by simpa using sign)
      rw [numberRun, isNumberCharacter_of_startsNumber starts,
        Bool.true_or, if_pos rfl]
      exact operand

/-- A number is scanned as a whole when it stands by itself. -/
theorem numberRun_numberRun (text : List Char) :
    numberRun (numberRun text) = numberRun text := by
  induction text with
  | nil => rfl
  | cons character rest inductionHypothesis =>
      rw [numberRun]
      split
      · next belongs =>
          have still : (isNumberCharacter character ||
              (character == '*' && startsOperand (numberRun rest))) = true := by
            simp only [Bool.or_eq_true, Bool.and_eq_true] at belongs ⊢
            exact belongs.imp_right fun ⟨star, operand⟩ =>
              ⟨star, startsOperand_numberRun operand⟩
          rw [numberRun, if_pos still, inductionHypothesis]
      · rfl

theorem IsNumberText.nonempty
    {text : String}
    (isNumber : IsNumberText text) :
    text.toList ≠ [] := by
  obtain ⟨first, isFirst, -⟩ := isNumber.starts
  exact List.ne_nil_of_mem (List.mem_of_mem_head? isFirst)

/-- The text of a number has characters of numbers only. -/
theorem IsNumberText.numeric
    {text : String}
    (isNumber : IsNumberText text) :
    ∀ character ∈ text.toList, isNumeric character = true := by
  intro character member
  rw [← isNumber.run] at member
  exact isNumeric_of_mem_numberRun member

/-- A word is a lexeme that a scan can find. -/
theorem wordPiece_isScanned
    {first : Char}
    {rest : List Char}
    {lexeme : Lexeme}
    (holds : (wordPiece first rest).lexeme = some lexeme) :
    lexeme.IsScanned := by
  simp only [wordPiece] at holds
  split at holds
  · cases holds
  · cases holds
    intro character member
    simp only [String.toList_ofList, List.tail_cons] at member
    exact List.mem_takeWhile_imp member

/-- What a piece holds, if anything, is spelled as scanning leaves it. -/
def Piece.IsScanned (found : Piece) : Prop :=
  ∀ lexeme, found.lexeme = some lexeme → lexeme.IsScanned

theorem isScanned_gap (length : Nat) : (Piece.gap length).IsScanned :=
  fun _ holds => nomatch holds

theorem isScanned_ofLexeme
    (lexeme : Lexeme)
    (scanned : lexeme.IsScanned)
    (length : Nat) :
    (Piece.ofLexeme lexeme length).IsScanned :=
  fun _ holds => Option.some.inj holds ▸ scanned

/-- A colour value is read as a word. -/
theorem isScanned_colour
    (first : Char)
    (rest : List Char) :
    (Lexeme.word
      (String.ofList (first :: rest.takeWhile Char.isAlphanum))).IsScanned := by
  intro character member
  simp only [String.toList_ofList, List.tail_cons] at member
  have alphanumeric := List.mem_takeWhile_imp member
  simp [Text.isWordCharacter, alphanumeric]

/-- A number takes at least its first character. -/
theorem isScanned_number
    {first : Char}
    (starts : startsNumber first = true)
    (rest : List Char) :
    (Lexeme.number (String.ofList (numberRun (first :: rest)))).IsScanned := by
  have always := isNumberCharacter_of_startsNumber starts
  refine ⟨⟨first, ?_, starts⟩, ?_⟩
  · rw [String.toList_ofList, numberRun, always, Bool.true_or, if_pos rfl]
    rfl
  · rw [String.toList_ofList]
    exact numberRun_numberRun (first :: rest)

/-- Every piece holds a lexeme that a scan can find, or none. -/
theorem piece_isScanned
    {cursor : Cursor}
    {first : Char}
    {rest : List Char}
    {found : Piece}
    (taken : piece cursor first rest = .ok found) :
    found.IsScanned := by
  unfold piece at taken
  by_cases blank : Text.isBlank first = true
  · rw [if_pos blank] at taken
    exact Except.ok.inj taken ▸ isScanned_gap _
  rw [if_neg blank] at taken
  by_cases line : (first == '/' && ['/'].isPrefixOf rest) = true
  · rw [if_pos line] at taken
    exact Except.ok.inj taken ▸ isScanned_gap _
  rw [if_neg line] at taken
  by_cases block : (first == '/' && ['*'].isPrefixOf rest) = true
  · rw [if_pos block] at taken
    cases ended : commentLength? (rest.drop 1) with
    | none =>
        rw [ended] at taken
        cases taken
    | some length =>
        rw [ended] at taken
        exact Except.ok.inj taken ▸ isScanned_gap _
  rw [if_neg block] at taken
  by_cases opening : (first == '\x7b') = true
  · rw [if_pos opening] at taken
    exact Except.ok.inj taken ▸ isScanned_ofLexeme .openBrace trivial 0
  rw [if_neg opening] at taken
  by_cases closing : (first == '\x7d') = true
  · rw [if_pos closing] at taken
    exact Except.ok.inj taken ▸ isScanned_ofLexeme .closeBrace trivial 0
  rw [if_neg closing] at taken
  by_cases greater : (first == '>') = true
  · rw [if_pos greater] at taken
    exact Except.ok.inj taken ▸ isScanned_ofLexeme .greater trivial 0
  rw [if_neg greater] at taken
  by_cases star : (first == '*') = true
  · rw [if_pos star] at taken
    exact Except.ok.inj taken ▸ isScanned_ofLexeme .star trivial 0
  rw [if_neg star] at taken
  by_cases hash : (first == '#') = true
  · rw [if_pos hash] at taken
    by_cases define :
        (cursor.lineStart && "define".toList.isPrefixOf rest) = true
    · rw [if_pos define] at taken
      cases taken
    · rw [if_neg define] at taken
      exact Except.ok.inj taken ▸ isScanned_ofLexeme
        _ (isScanned_colour first rest) _
  rw [if_neg hash] at taken
  by_cases number : startsNumber first = true
  · rw [if_pos number] at taken
    exact Except.ok.inj taken ▸ isScanned_ofLexeme
      _ (isScanned_number number rest) _
  rw [if_neg number] at taken
  by_cases letter : first.isAlpha = true
  · rw [if_pos letter] at taken
    exact Except.ok.inj taken ▸ fun _ => wordPiece_isScanned
  · rw [if_neg letter] at taken
    cases taken

/-- The tokens of a text have lexemes that a scan can find. -/
theorem tokensFrom_isScanned
    {cursor : Cursor}
    {text : List Char}
    {written : List Token}
    (scanned : tokensFrom cursor text = .ok written) :
    ∀ token ∈ written, token.lexeme.IsScanned := by
  fun_induction tokensFrom cursor text generalizing written with
  | case1 =>
      cases scanned
      simp
  | case2 => cases scanned
  | case3 => cases scanned
  | case4 cursor first rest found taken characters tokens later lexeme holds =>
      rename_i inductionHypothesis
      cases scanned
      intro token member
      rcases List.mem_cons.mp member with rfl | inRest
      · exact piece_isScanned taken _ holds
      · exact inductionHypothesis later token inRest
  | case5 cursor first rest found taken characters tokens later none =>
      rename_i inductionHypothesis
      cases scanned
      exact inductionHypothesis later

/-! Parts of scripts. -/

/-- A name with a letter in front and name characters behind it. -/
def IsName (name : String) : Prop :=
  ∃ first rest, name.toList = first :: rest ∧ first.isAlpha = true ∧
    ∀ character ∈ rest, Text.isNameCharacter character = true

theorem isName_of_isRuleName
    {name : String}
    (accepted : isRuleName name = true) :
    IsName name := by
  unfold isRuleName at accepted
  split at accepted
  · cases accepted
  · next first rest form =>
      simp only [Bool.and_eq_true, List.all_eq_true] at accepted
      exact ⟨first, rest, form, accepted.1.1.1, accepted.1.1.2⟩

/--
A shape: a base name, and perhaps two colons with word characters behind them.
-/
structure IsShape (shape : String) : Prop where
  split : ∃ base ∈ shapes, ∃ suffix, shape.toList = base.toList ++ suffix ∧
    (suffix = [] ∨ ∃ first more, suffix = ':' :: ':' :: first :: more ∧
      ∀ character ∈ first :: more, Text.isWordCharacter character = true)

theorem splitSuffix_append (word : List Char) :
    (splitSuffix word).1 ++ (splitSuffix word).2 = word := by
  fun_induction splitSuffix word with
  | case1 => rfl
  | case2 => rfl
  | case3 character rest _ base suffix split inductionHypothesis =>
      rw [split] at inductionHypothesis
      simpa using inductionHypothesis

/-- A suffix is empty or begins with two colons. -/
theorem splitSuffix_suffix (word : List Char) :
    (splitSuffix word).2 = [] ∨ ∃ rest,
      (splitSuffix word).2 = ':' :: ':' :: rest := by
  fun_induction splitSuffix word with
  | case1 => exact .inl rfl
  | case2 rest => exact .inr ⟨rest, rfl⟩
  | case3 character rest _ base suffix split inductionHypothesis =>
      rw [split] at inductionHypothesis
      exact inductionHypothesis

/-- The canonical form of a scanned word is a shape. -/
theorem isShape_of_canonicalShape?
    {word shape : String}
    (scanned : (Lexeme.word word).IsScanned)
    (canonical : canonicalShape? word = some shape) :
    IsShape shape := by
  simp only [canonicalShape?] at canonical
  split_ifs at canonical with accepted
  cases canonical
  obtain ⟨notBare, isBase⟩ : (splitSuffix word.toList).2.length ≠ 2 ∧
      String.ofList ((splitSuffix word.toList).1.map Char.toLower) ∈
        shapes := by
    simpa using accepted
  refine ⟨_, isBase, (splitSuffix word.toList).2, by simp, ?_⟩
  rcases splitSuffix_suffix word.toList with none | ⟨rest, form⟩
  · exact .inl none
  · right
    cases rest with
    | nil => simp [form] at notBare
    | cons first more =>
        refine ⟨first, more, form, fun character member => scanned character ?_⟩
        -- the base is not empty, so that the suffix lies behind the first
        -- character
        have whole := splitSuffix_append word.toList
        cases base : (splitSuffix word.toList).1 with
        | nil =>
            rw [base] at isBase
            exact absurd isBase (by decide)
        | cons letter letters =>
            rw [← whole, base, form]
            simp only [List.cons_append, List.tail_cons, List.mem_append,
              List.mem_cons] at member ⊢
            exact .inr (.inr (.inr member))

/-- A base without colon is split from its suffix. -/
theorem splitSuffix_append_of_noColon
    {base suffix : List Char}
    (noColon : ':' ∉ base)
    (form : suffix = [] ∨ ∃ rest, suffix = ':' :: ':' :: rest) :
    splitSuffix (base ++ suffix) = (base, suffix) := by
  induction base with
  | nil =>
      rcases form with rfl | ⟨rest, rfl⟩
      · rfl
      · rfl
  | cons character rest inductionHypothesis =>
      obtain ⟨notColon, noneLater⟩ := not_or.mp (List.mem_cons.not.mp noColon)
      have split := inductionHypothesis noneLater
      rw [List.cons_append, splitSuffix, split]
      rintro behind rfl
      exact absurd rfl notColon

/-- A shape is its own canonical form. -/
theorem canonicalShape?_of_isShape
    {shape : String}
    (isShape : IsShape shape) :
    canonicalShape? shape = some shape := by
  obtain ⟨base, isBase, suffix, form, suffixForm⟩ := isShape.split
  have plain : ∀ base ∈ shapes,
      ':' ∉ base.toList ∧ base.toList.map Char.toLower = base.toList := by
    decide
  obtain ⟨noColon, lower⟩ := plain base isBase
  have split : splitSuffix shape.toList = (base.toList, suffix) := by
    rw [form]
    refine splitSuffix_append_of_noColon noColon (suffixForm.imp_right ?_)
    rintro ⟨first, more, isSuffix, -⟩
    exact ⟨first :: more, isSuffix⟩
  have notBare : suffix.length ≠ 2 := by
    rcases suffixForm with rfl | ⟨first, more, rfl, -⟩ <;> simp
  simp only [canonicalShape?, split, lower, String.ofList_toList]
  rw [if_pos (by simp [notBare, isBase]), ← form, String.ofList_toList]

end Script

open Script

/-- A rule name that is no shape, or a shape. -/
def Target.IsSpelled : Target → Prop
  | .rule name => isRuleName name = true ∧ canonicalShape? name = none
  | .shape name => IsShape name

/-- A transformation with one or more numbers. -/
structure Transform.IsSpelled (transform : Transform) : Prop where
  some : transform.values ≠ []
  values : ∀ value ∈ transform.values, IsNumberText value

/-- A loop with a number as its count, if it has one. -/
structure Loop.IsSpelled (loop : Loop) : Prop where
  count : ∀ count ∈ loop.count, IsNumberText count
  transforms : ∀ transform ∈ loop.transforms, transform.IsSpelled

/-- A call site with names and numbers in their places. -/
structure CallSite.IsSpelled (site : CallSite) : Prop where
  loops : ∀ loop ∈ site.loops, loop.IsSpelled
  target : site.target.IsSpelled

/-- A definition with names and numbers in their places. -/
structure RuleDefinition.IsSpelled (definition : RuleDefinition) : Prop where
  name : isRuleName definition.name = true
  weight : ∀ weight ∈ definition.weight, IsNumberText weight
  maxDepth : ∀ depth ∈ definition.maxDepth, IsNumberText depth
  successor : ∀ successor ∈ definition.successor, isRuleName successor = true
  /-- A successor stands behind a depth. -/
  follows : definition.maxDepth = none → definition.successor = none
  body : ∀ site ∈ definition.body, site.IsSpelled

namespace Script

/-- A script with names and numbers in their places. -/
structure IsSpelled (script : Script) : Prop where
  maxDepth : ∀ depth ∈ script.maxDepth, IsNumberText depth
  someEntry : script.entry ≠ []
  entry : ∀ site ∈ script.entry, site.IsSpelled
  rules : ∀ definition ∈ script.rules, definition.IsSpelled

/-- The tokens of a list are spelled as scanning leaves them. -/
def AreScanned (written : List Token) : Prop :=
  ∀ token ∈ written, token.lexeme.IsScanned

/-- What holds of each phrase of a kind holds of all phrases in a row. -/
theorem WritesEach.forall_of_scanned
    {α : Type}
    {Writes : List Token → α → Prop}
    {Holds : α → Prop}
    {written : List Token}
    {items : List α}
    (writes : WritesEach Writes written items)
    (scanned : AreScanned written)
    (each :
      ∀ front first, Writes front first → AreScanned front → Holds first) :
    ∀ item ∈ items, Holds item := by
  induction writes with
  | nil => simp
  | cons head tail inductionHypothesis =>
      intro item member
      rcases List.mem_cons.mp member with rfl | inRest
      · exact each _ _ head fun token inFront =>
          scanned token (List.mem_append_left _ inFront)
      · exact inductionHypothesis
          (fun token inBehind =>
            scanned token (List.mem_append_right _ inBehind)) item inRest

/-- A number that is scanned has the text of a number. -/
theorem WritesNumber.isNumberText
    {token : Token}
    {text : String}
    (writes : WritesNumber token text)
    (scanned : token.lexeme.IsScanned) :
    IsNumberText text := by
  rw [writes] at scanned
  exact scanned

/-- Numbers that are scanned have texts of numbers. -/
theorem WritesNumbers.areNumberTexts
    {written : List Token}
    {texts : List String}
    (writes : WritesNumbers written texts)
    (scanned : AreScanned written) :
    ∀ text ∈ texts, IsNumberText text := by
  intro text member
  have lexeme : Lexeme.number text ∈ written.map Token.lexeme := by
    rw [writes.1]
    exact List.mem_map_of_mem member
  obtain ⟨token, inWritten, isNumber⟩ := List.mem_map.mp lexeme
  exact WritesNumber.isNumberText isNumber (scanned token inWritten)

/-- A group of scanned tokens writes spelled transformations. -/
theorem WritesGroup.isSpelled
    {written : List Token}
    {transforms : List Transform}
    (writes : WritesGroup written transforms)
    (scanned : AreScanned written) :
    ∀ transform ∈ transforms, transform.IsSpelled := by
  cases writes with
  | geometric kind keyword operands =>
      rw [List.forall_mem_singleton]
      refine ⟨operands.2, operands.areNumberTexts fun token member => ?_⟩
      exact scanned token (by simp [member])
  | shading => exact nofun
  | colour => exact nofun
  | blend => exact nofun

/-- A block of scanned tokens writes spelled transformations. -/
theorem WritesBlock.isSpelled
    {written : List Token}
    {transforms : List Transform}
    (writes : WritesBlock written transforms)
    (scanned : AreScanned written) :
    ∀ transform ∈ transforms, transform.IsSpelled := by
  cases writes with
  | braces opens content closes =>
      intro transform member
      obtain ⟨group, inGroups, inGroup⟩ := List.mem_flatten.mp member
      exact content.forall_of_scanned
        (fun token inside => scanned token (by simp [inside]))
        (fun _ _ => WritesGroup.isSpelled) group inGroups transform inGroup

/-- A loop of scanned tokens is spelled. -/
theorem WritesLoop.isSpelled
    {written : List Token}
    {loop : Loop}
    (writes : WritesLoop written loop)
    (scanned : AreScanned written) :
    loop.IsSpelled := by
  cases writes with
  | plain block => exact ⟨nofun, block.isSpelled scanned⟩
  | counted counts times block =>
      refine ⟨fun count isCount => ?_, block.isSpelled fun token member => ?_⟩
      · cases isCount
        exact counts.isNumberText (scanned _ (by simp))
      · exact scanned token (by simp [member])

/-- A target that is a scanned token is spelled. -/
theorem WritesTarget.isSpelled
    {token : Token}
    {target : Target}
    (writes : WritesTarget token target)
    (scanned : token.lexeme.IsScanned) :
    target.IsSpelled := by
  cases writes with
  | shape isWord canonical =>
      rw [isWord] at scanned
      exact isShape_of_canonicalShape? scanned canonical
  | rule noShape names => exact ⟨names.2, noShape⟩

/-- A call of scanned tokens is spelled. -/
theorem WritesCall.isSpelled
    {written : List Token}
    {site : CallSite}
    (writes : WritesCall written site)
    (scanned : AreScanned written) :
    site.IsSpelled := by
  cases writes with
  | site loops targets =>
      constructor
      · exact loops.forall_of_scanned
          (fun token member => scanned token (List.mem_append_left _ member))
          fun _ _ => WritesLoop.isSpelled
      · exact targets.isSpelled (scanned _ (by simp))

/-- A depth modifier of scanned tokens has a number and a rule name. -/
theorem WritesDepth.isSpelled
    {written : List Token}
    {depth : String × Option String}
    (writes : WritesDepth written depth)
    (scanned : AreScanned written) :
    IsNumberText depth.1 ∧ ∀ successor ∈ depth.2,
      isRuleName successor = true := by
  cases writes with
  | plain keyword value =>
      exact ⟨value.isNumberText (scanned _ (by simp)), by simp⟩
  | followed keyword value marks names =>
      refine ⟨value.isNumberText (scanned _ (by simp)),
        fun successor member => ?_⟩
      cases member
      exact names.2

theorem WritesWeight.isNumberText
    {written : List Token}
    {weight : String}
    (writes : WritesWeight written weight)
    (scanned : AreScanned written) :
    IsNumberText weight := by
  cases writes with
  | weight keyword value => exact value.isNumberText (scanned _ (by simp))

/-- Modifiers of scanned tokens have numbers and rule names. -/
theorem WritesModifiers.isSpelled
    {written : List Token}
    {weight : Option String}
    {depth : Option (String × Option String)}
    (writes : WritesModifiers written weight depth)
    (scanned : AreScanned written) :
    (∀ text ∈ weight, IsNumberText text) ∧
      ∀ found ∈ depth,
        IsNumberText found.1 ∧ ∀ successor ∈ found.2,
          isRuleName successor = true := by
  have left {front behind : List Token}
      (scanned : AreScanned (front ++ behind)) :
      AreScanned front :=
        fun token member => scanned token (List.mem_append_left _ member)
  have right {front behind : List Token}
      (scanned : AreScanned (front ++ behind)) :
      AreScanned behind :=
        fun token member => scanned token (List.mem_append_right _ member)
  cases writes with
  | none => simp
  | weight first => simpa using first.isNumberText scanned
  | depth first => simpa using first.isSpelled scanned
  | weightThenDepth first second =>
      simpa using ⟨first.isNumberText (left scanned),
        second.isSpelled (right scanned)⟩
  | depthThenWeight first second =>
      simpa using ⟨second.isNumberText (right scanned),
        first.isSpelled (left scanned)⟩

/-- A rule of scanned tokens is spelled. -/
theorem WritesRule.isSpelled
    {written : List Token}
    {definition : RuleDefinition}
    (writes : WritesRule written definition)
    (scanned : AreScanned written) :
    definition.IsSpelled := by
  cases writes with
  | @definition _ _ _ _ modifiers inside _ _ depth _ isRule names modified opens
    body closes =>
      obtain ⟨weights, depths⟩ := modified.isSpelled
        fun token member => scanned token (by simp [member])
      refine ⟨names.2, weights, ?_, ?_, ?_, ?_⟩
      · cases depth with
        | none => simp
        | some found => simpa using (depths found rfl).1
      · cases depth with
        | none => simp
        | some found => simpa using (depths found rfl).2
      · cases depth with
        | none => exact fun _ => rfl
        | some found => exact nofun
      · exact body.forall_of_scanned
          (fun token member => scanned token (by simp [member]))
          fun _ _ => WritesCall.isSpelled

/-- An item with names and numbers in their places. -/
def Item.IsSpelled : Item → Prop
  | .maxDepth value => IsNumberText value
  | .rule definition => definition.IsSpelled
  | .call site => site.IsSpelled

/-- An item of scanned tokens is spelled. -/
theorem WritesItem.isSpelled
    {written : List Token}
    {part : Item}
    (writes : WritesItem written part)
    (scanned : AreScanned written) :
    part.IsSpelled := by
  cases writes with
  | setting isSet isDepth values =>
      exact values.isNumberText (scanned _ (by simp))
  | rule defines => exact defines.isSpelled scanned
  | call calls => exact calls.isSpelled scanned

/--
A source is read as the script that its items make up, where one
of them is a call.
-/
theorem ofSource_eq_ok_iff
    {source : String}
    {script : Script} :
    ofSource source = .ok script ↔
      ∃ written parts,
        tokens source = .ok written ∧ WritesEach WritesItem written parts ∧
        (ofItems parts).entry ≠ [] ∧ ofItems parts = script := by
  constructor
  · intro accepted
    unfold ofSource at accepted
    split at accepted
    · cases accepted
    · next written scanned =>
        unfold ofTokens at accepted
        split at accepted
        · cases accepted
        · next parts read =>
            split at accepted
            · cases accepted
            · next someEntry =>
                cases accepted
                exact ⟨written, parts, scanned, items_eq_ok_iff.mp read,
                  by simpa using someEntry, rfl⟩
  · rintro ⟨written, parts, scanned, writes, someEntry, rfl⟩
    have isEntry : (ofItems parts).entry.isEmpty = false :=
      List.isEmpty_eq_false_iff.mpr someEntry
    simp only [ofSource, scanned, ofTokens, items_eq_ok_iff.mpr writes, isEntry,
      Bool.false_eq_true, ↓reduceIte]

/-- A script of spelled items is spelled. -/
theorem isSpelled_ofItems
    {parts : List Item}
    (spelled : ∀ part ∈ parts, part.IsSpelled)
    (someEntry : (ofItems parts).entry ≠ []) :
    (ofItems parts).IsSpelled := by
  refine ⟨?_, someEntry, ?_, ?_⟩
  · intro depth isLast
    obtain ⟨part, member, isDepth⟩ :=
      List.mem_filterMap.mp (List.mem_of_getLast? isLast)
    cases part with
    | maxDepth value =>
        cases isDepth
        exact spelled _ member
    | rule => cases isDepth
    | call => cases isDepth
  · intro site inEntry
    obtain ⟨part, member, isCall⟩ := List.mem_filterMap.mp inEntry
    cases part with
    | call site =>
        cases isCall
        exact spelled _ member
    | rule => cases isCall
    | maxDepth => cases isCall
  · intro definition inRules
    obtain ⟨part, member, isRule⟩ := List.mem_filterMap.mp inRules
    cases part with
    | rule definition =>
        cases isRule
        exact spelled _ member
    | call => cases isRule
    | maxDepth => cases isRule

/--
A script that is read from a source has names and numbers in their places.
-/
theorem isSpelled_of_ofSource
    {source : String}
    {script : Script}
    (accepted : ofSource source = .ok script) :
    script.IsSpelled := by
  obtain ⟨written, parts, scanned, writes, someEntry, rfl⟩ :=
    ofSource_eq_ok_iff.mp accepted
  exact isSpelled_ofItems
    (writes.forall_of_scanned (tokensFrom_isScanned scanned) fun _ _ =>
      WritesItem.isSpelled)
    someEntry

end Script

end Eisen
