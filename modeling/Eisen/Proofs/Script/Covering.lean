import Eisen.Proofs.Script.Rows

namespace Eisen.Script

/-!
# Sources as tokens and gaps

Scanning loses nothing. A source that is scanned is the texts of its tokens with
blanks, comments and rendering directives between them, and every token stands
where it says. Where scanning fails, the same holds of everything in front of
the fault.
-/

/-! Places. -/

/--
The place behind a text, counted from its line feeds and what is behind
the last of them.
-/
def Place.behind (before : List Char) : Place where
  line := 1 + before.count '\n'
  column := 1 + (before.reverse.takeWhile (· != '\n')).length

/-- The place behind one more character is the next place. -/
theorem Place.next_behind
    (before : List Char)
    (character : Char) :
    (Place.behind before).next character =
      Place.behind (before ++ [character]) := by
  by_cases feed : character = '\n'
  · subst feed
    simp [Place.next, Place.behind, Nat.add_comm]
  · have noFeed : (character != '\n') = true := bne_iff_ne.mpr feed
    have count : [character].count '\n' = 0 :=
      List.count_eq_zero.mpr (by simpa using Ne.symm feed)
    simp [Place.next, Place.behind, feed, noFeed, count, Nat.add_comm]

theorem Place.after_behind
    (before more : List Char) :
    (Place.behind before).after more = Place.behind (before ++ more) := by
  induction more generalizing before with
  | nil => rw [List.append_nil, Place.after, List.foldl_nil]
  | cons character rest inductionHypothesis =>
      calc (Place.behind before).after (character :: rest)
          = ((Place.behind before).next character).after rest := rfl
        _ = (Place.behind (before ++ [character])).after rest := by
          rw [Place.next_behind]
        _ = Place.behind (before ++ [character] ++ rest) :=
          inductionHypothesis _
        _ = Place.behind (before ++ character :: rest) := by
            rw [List.append_assoc, List.singleton_append]

/-- A place on an earlier line, or farther left on the same line. -/
def Place.Precedes (earlier later : Place) : Prop :=
  earlier.line < later.line ∨
    earlier.line = later.line ∧ earlier.column < later.column

/-- The order of places is transitive. -/
theorem Place.Precedes.trans
    {first second third : Place}
    (one : first.Precedes second)
    (two : second.Precedes third) :
    first.Precedes third := by
  unfold Place.Precedes at *
  omega

theorem Place.precedes_next
    (place : Place)
    (character : Char) :
    place.Precedes (place.next character) := by
  by_cases feed : character = '\n'
  · left
    simp [Place.next, feed]
  · right
    simp [Place.next, feed]

/-- Every part that is not empty leads to a later place. -/
theorem Place.behind_precedes
    (before : List Char)
    {more : List Char}
    (nonempty : more ≠ []) :
    (Place.behind before).Precedes (Place.behind (before ++ more)) := by
  induction more generalizing before with
  | nil => exact absurd rfl nonempty
  | cons character rest inductionHypothesis =>
      have step : (Place.behind before).Precedes
          (Place.behind (before ++ [character])) :=
        Place.next_behind before character ▸ Place.precedes_next _ character
      by_cases last : rest = []
      · rwa [last]
      · have further := inductionHypothesis (before ++ [character]) last
        rw [List.append_assoc, List.singleton_append] at further
        exact step.trans further

/-! Parts of a source. -/

/-- Nothing, or a line feed in front of something. -/
def EndsLine (behind : List Char) : Prop :=
  ∀ next ∈ behind.head?, next = '\n'

/-- The characters that end a block comment. -/
def commentEnd : List Char := ['*', '/']

/--
A line from `set` on: blanks, the name of a rendering setting, and anything.
-/
structure IsRenderingDirective (part : List Char) : Prop where
  split : ∃ word blanks setting remainder,
    part = word ++ (blanks ++ (setting ++ remainder)) ∧
      word.map Char.toLower = "set".toList ∧
      (blanks ≠ [] ∧ ∀ character ∈ blanks, character = ' ' ∨ character = '\t') ∧
      String.ofList (setting.map Char.toLower) ∈ renderingSettings ∧
      '\n' ∉ remainder

/-- A part of a source that gives no token, with what is behind it. -/
inductive IsSkipped : List Char → List Char → Prop
  | blanks
      {part behind : List Char}
      (blank : ∀ character ∈ part, Text.isBlank character = true) :
      IsSkipped part behind
  | lineComment
      {comment behind : List Char}
      (oneLine : '\n' ∉ comment)
      (ends : EndsLine behind) :
      IsSkipped ('/' :: '/' :: comment) behind
  | blockComment
      {comment behind : List Char}
      (unclosed : ¬ commentEnd <:+: comment) :
      IsSkipped ('/' :: '*' :: (comment ++ commentEnd)) behind
  | directive
      {part behind : List Char}
      (rendering : IsRenderingDirective part)
      (ends : EndsLine behind) :
      IsSkipped part behind

/-- A text does not go on with a character of a class. -/
def Stops
    (accepts : Char → Bool)
    (behind : List Char) : Prop :=
  ∀ next ∈ behind.head?, accepts next = false

/-- A lexeme that what is behind it does not make longer. -/
inductive Lexeme.IsCut : Lexeme → List Char → Prop
  | word
      {first : Char}
      {more behind : List Char}
      (letter : first.isAlpha = true)
      (others : ∀ character ∈ more, Text.isWordCharacter character = true)
      (stops : Stops Text.isWordCharacter behind) :
      IsCut (.word (String.ofList (first :: more))) behind
  | colour
      {more behind : List Char}
      (others : ∀ character ∈ more, character.isAlphanum = true)
      (stops : Stops Char.isAlphanum behind) :
      IsCut (.word (String.ofList ('#' :: more))) behind
  | number
      {first : Char}
      {more behind : List Char}
      (starts : startsNumber first = true)
      (run : numberRun (first :: (more ++ behind)) = first :: more) :
      IsCut (.number (String.ofList (first :: more))) behind
  | openBrace {behind : List Char} : IsCut .openBrace behind
  | closeBrace {behind : List Char} : IsCut .closeBrace behind
  | star {behind : List Char} : IsCut .star behind
  | greater {behind : List Char} : IsCut .greater behind

/-- A lexeme has a text. -/
theorem Lexeme.IsCut.text_ne_nil
    {lexeme : Lexeme}
    {behind : List Char}
    (cut : lexeme.IsCut behind) :
    lexeme.text.toList ≠ [] := by
  cases cut <;> simp [Lexeme.text]

/--
A text that is cut into tokens and skipped parts: what stands before it, its
tokens, the text itself and what is behind it.
-/
inductive Covers (behind : List Char) : List Char → List Token →
  List Char → Prop
  | nothing
      {before : List Char} :
      Covers behind before [] []
  | skip
      {before part text : List Char}
      {found : List Token}
      (skipped : IsSkipped part (text ++ behind))
      (later : Covers behind (before ++ part) found text) :
      Covers behind before found (part ++ text)
  | token
      {before text : List Char}
      {lexeme : Lexeme}
      {found : List Token}
      (cut : lexeme.IsCut (text ++ behind))
      (later : Covers behind (before ++ lexeme.text.toList) found text) :
      Covers behind before (⟨lexeme, Place.behind before⟩ :: found)
        (lexeme.text.toList ++ text)

/-- Neither a skipped part nor a lexeme stands at the front of a text. -/
def StartsNothing (text : List Char) : Prop :=
  ∀ part behind, text = part ++ behind → part ≠ [] →
    ¬ IsSkipped part behind ∧ ∀ lexeme : Lexeme,
      lexeme.text.toList = part → ¬ lexeme.IsCut behind

/-- A fault at the front of a text, with what stands before it. -/
inductive IsFaultAt (before : List Char) : List Char → Fault → Prop
  | unexpectedCharacter
      {found : Char}
      {rest : List Char}
      (nothing : StartsNothing (found :: rest)) :
      IsFaultAt before (found :: rest)
        (.unexpectedCharacter (Place.behind before) found)
  | unterminatedComment
      {comment : List Char}
      (unclosed : ¬ commentEnd <:+: comment) :
      IsFaultAt before ('/' :: '*' :: comment)
        (.unterminatedComment (Place.behind before))
  | preprocessor
      {rest : List Char} :
      IsFaultAt before ('#' :: ("define".toList ++ rest))
        (.preprocessor (Place.behind before).line)

/-- What scanning a text may answer that has another text before it. -/
def IsAccountOf
    (before text : List Char) :
    Except Fault (List Token) → Prop
  | .ok found =>
      Covers [] before found text ∧
        found.Pairwise fun earlier later => earlier.place.Precedes later.place
  | .error fault =>
      ∃ covered behind found,
        text = covered ++ behind ∧ Covers behind before found covered ∧
        IsFaultAt (before ++ covered) behind fault

/-- A token behind a text stands behind its place. -/
theorem Covers.precedes_of_mem
    {behind before text : List Char}
    {found : List Token}
    (covers : Covers behind before found text)
    {earlier : Place}
    (front : ∀ more, earlier.Precedes (Place.behind (before ++ more))) :
    ∀ token ∈ found, earlier.Precedes token.place := by
  induction covers with
  | nothing => exact nofun
  | skip _ _ inductionHypothesis =>
      apply inductionHypothesis
      intro more
      rw [List.append_assoc]
      exact front _
  | token _ _ inductionHypothesis =>
      rw [List.forall_mem_cons]
      constructor
      · simpa using front []
      · apply inductionHypothesis
        intro more
        rw [List.append_assoc]
        exact front _

/-- Each token stands behind the ones before it. -/
theorem Covers.pairwise
    {behind before text : List Char}
    {found : List Token}
    (covers : Covers behind before found text) :
    found.Pairwise fun earlier later => earlier.place.Precedes later.place := by
  induction covers with
  | nothing => exact .nil
  | skip _ _ inductionHypothesis => exact inductionHypothesis
  | @token before text lexeme found cut later inductionHypothesis =>
      refine .cons (later.precedes_of_mem fun more => ?_) inductionHypothesis
      rw [List.append_assoc]
      exact Place.behind_precedes before
        (List.append_ne_nil_of_left_ne_nil cut.text_ne_nil more)

/-! Cutting pieces off. -/

theorem take_takeWhile
    (accepts : Char → Bool)
    (rest : List Char) :
    rest.take (rest.takeWhile accepts).length = rest.takeWhile accepts :=
  (List.prefix_iff_eq_take.mp (List.takeWhile_prefix accepts)).symm

/-- Behind a run of characters stands nothing that continues it. -/
theorem stops_drop_takeWhile
    (accepts : Char → Bool)
    (rest : List Char) :
    Stops accepts (rest.drop (rest.takeWhile accepts).length) := by
  induction rest with
  | nil => exact nofun
  | cons character others inductionHypothesis =>
      by_cases accepted : accepts character = true
      · rw [List.takeWhile_cons_of_pos accepted]
        exact inductionHypothesis
      · rw [List.takeWhile_cons_of_neg accepted]
        intro next isNext
        rw [← Option.mem_some_iff.mp isNext]
        exact Bool.eq_false_iff.mpr accepted

theorem endsLine_drop_lineLength (rest : List Char) :
    EndsLine (rest.drop (lineLength rest)) :=
  fun next isNext => by
    simpa using stops_drop_takeWhile (· != '\n') rest next isNext

theorem feed_not_mem_take_lineLength (rest : List Char) :
    '\n' ∉ rest.take (lineLength rest) := by
  rw [lineLength, take_takeWhile]
  intro member
  simpa using List.mem_takeWhile_imp member

/-- A block comment goes up to the first end mark. -/
theorem commentLength?_eq_some
    {text : List Char}
    {length : Nat}
    (ended : commentLength? text = some length) :
    ∃ comment, text.take length = comment ++ commentEnd ∧
      ¬ commentEnd <:+: comment := by
  fun_induction commentLength? text generalizing length with
  | case1 => cases ended
  | case2 rest =>
      cases ended
      exact ⟨[], rfl, by simp [commentEnd]⟩
  | case3 character rest differs inductionHypothesis =>
      obtain ⟨shorter, found, rfl⟩ := Option.map_eq_some_iff.mp ended
      obtain ⟨comment, taken, unclosed⟩ := inductionHypothesis found
      refine ⟨character :: comment, by
        rw [List.take_succ_cons, taken, List.cons_append], ?_⟩
      rw [List.infix_cons_iff, not_or]
      refine ⟨fun isPrefix => ?_, unclosed⟩
      have whole : character :: comment <+: character :: rest := by
        have part : comment <+: rest :=
          (List.prefix_append comment commentEnd).trans
            (taken ▸ List.take_prefix shorter rest)
        exact List.cons_prefix_cons.mpr ⟨rfl, part⟩
      obtain ⟨others, same⟩ := isPrefix.trans whole
      exact differs others (List.cons.inj same).1.symm
        (List.cons.inj same).2.symm

/-- A comment without an end mark is open up to the end of the text. -/
theorem commentLength?_eq_none
    {text : List Char}
    (unended : commentLength? text = none) :
    ¬ commentEnd <:+: text := by
  fun_induction commentLength? text with
  | case1 => simp [commentEnd]
  | case2 => cases unended
  | case3 character rest differs inductionHypothesis =>
      rw [List.infix_cons_iff, not_or]
      refine ⟨?_, inductionHypothesis (Option.map_eq_none_iff.mp unended)⟩
      rintro ⟨others, same⟩
      exact differs others (List.cons.inj same).1.symm
        (List.cons.inj same).2.symm

/-- A setting that follows `set` stands behind blanks on the same line. -/
theorem renderingKeyAhead_split
    {behind : List Char}
    (ahead : renderingKeyAhead behind = true)
    (stops : Stops Text.isWordCharacter behind) :
    ∃ blanks setting remainder,
      behind = blanks ++ (setting ++ remainder) ∧
        (blanks ≠ [] ∧ ∀ character ∈ blanks,
          character = ' ' ∨ character = '\t') ∧
        String.ofList (setting.map Char.toLower) ∈ renderingSettings ∧
        ∀ character ∈ setting, Text.isWordCharacter character = true := by
  simp only [renderingKeyAhead, List.any_eq_true,
    List.isPrefixOf_iff_prefix] at ahead
  obtain ⟨name, known, isPrefix⟩ := ahead
  let isSeparator : Char → Bool :=
    fun character => character == ' ' || character == '\t'
  have nonempty : name.toList ≠ [] := by
    have checked : renderingSettings.all (!·.toList.isEmpty) = true := by decide
    simpa using List.all_eq_true.mp checked name known
  obtain ⟨setting, others, cut, spelled, -⟩ :=
    List.append_eq_map_iff.mp isPrefix.choose_spec
  have word : ∀ character ∈ setting, Text.isWordCharacter character = true := by
    intro character member
    have inKey : character ∈ setting ++ others :=
      List.mem_append_left others member
    rw [← cut] at inKey
    exact List.mem_takeWhile_imp inKey
  have split : behind = behind.takeWhile isSeparator ++ (setting ++
      (others ++ (behind.dropWhile isSeparator).dropWhile
          Text.isWordCharacter)) := by
    rw [← List.append_assoc setting, ← cut, List.takeWhile_append_dropWhile,
      List.takeWhile_append_dropWhile]
  refine ⟨behind.takeWhile isSeparator, setting, _, split, ⟨?_, ?_⟩, ?_, word⟩
  · -- Without blanks the setting would make the word `set` longer.
    intro none
    rw [none, List.nil_append] at split
    cases setting with
    | nil => exact nonempty (by rw [← spelled, List.map_nil])
    | cons first more =>
        have refused := stops first (by rw [split]; rfl)
        rw [word first List.mem_cons_self] at refused
        cases refused
  · intro character member
    simpa [isSeparator] using List.mem_takeWhile_imp member
  · rwa [spelled, String.ofList_toList]

/-- What a piece says of the part of the text that it stands for. -/
inductive Piece.StandsFor (found : Piece) : List Char → List Char → Prop
  | skipped
      {part behind : List Char}
      (silent : found.lexeme = none)
      (skipped : IsSkipped part behind) :
      StandsFor found part behind
  | lexeme
      {part behind : List Char}
      {lexeme : Lexeme}
      (holds : found.lexeme = some lexeme)
      (written : lexeme.text.toList = part)
      (cut : lexeme.IsCut behind) :
      StandsFor found part behind

/-- A run of blanks is skipped. -/
theorem isSkipped_blanks
    {first : Char}
    (blank : Text.isBlank first = true)
    (rest : List Char) :
    IsSkipped (first :: rest.take (rest.takeWhile Text.isBlank).length)
      (rest.drop (rest.takeWhile Text.isBlank).length) := by
  refine .blanks (List.forall_mem_cons.mpr ⟨blank, fun character member => ?_⟩)
  rw [take_takeWhile] at member
  exact List.mem_takeWhile_imp member

/-- Two signs at the front are a slash and the given one. -/
theorem front_of_isPrefixOf
    {first second : Char}
    {rest : List Char}
    (front : (first == '/' && [second].isPrefixOf rest) = true) :
    first = '/' ∧ ∃ others, rest = second :: others := by
  obtain ⟨slash, isPrefix⟩ := Bool.and_eq_true_iff.mp front
  obtain ⟨others, rfl⟩ := List.isPrefixOf_iff_prefix.mp isPrefix
  exact ⟨beq_iff_eq.mp slash, others, rfl⟩

/-- A comment up to the end of its line is skipped. -/
theorem isSkipped_lineComment (rest : List Char) :
    IsSkipped ('/' :: ('/' :: rest).take (lineLength ('/' :: rest)))
      (('/' :: rest).drop (lineLength ('/' :: rest))) := by
  have longer : lineLength ('/' :: rest) = lineLength rest + 1 := rfl
  rw [longer, List.take_succ_cons, List.drop_succ_cons]
  exact .lineComment (feed_not_mem_take_lineLength rest)
    (endsLine_drop_lineLength rest)

/-- A comment up to its closing sign is skipped. -/
theorem isSkipped_blockComment
    {rest : List Char}
    {length : Nat}
    (ended : commentLength? rest = some length) :
    IsSkipped ('/' :: ('*' :: rest).take (length + 1))
      (('*' :: rest).drop (length + 1)) := by
  obtain ⟨comment, taken, unclosed⟩ := commentLength?_eq_some ended
  rw [List.take_succ_cons, List.drop_succ_cons, taken]
  exact .blockComment unclosed

/-- A hash with letters and digits is cut as a word. -/
theorem isCut_colour (rest : List Char) :
    (Lexeme.word (String.ofList ('#' :: rest.takeWhile Char.isAlphanum))).IsCut
      (rest.drop (rest.takeWhile Char.isAlphanum).length) :=
  .colour (fun _ member => List.mem_takeWhile_imp member)
    (stops_drop_takeWhile _ rest)

theorem numberRun_isPrefix (text : List Char) :
    numberRun text <+: text := by
  induction text with
  | nil => exact List.nil_prefix
  | cons character rest inductionHypothesis =>
      rw [numberRun]
      split
      · exact List.cons_prefix_cons.mpr ⟨rfl, inductionHypothesis⟩
      · exact List.nil_prefix

/-- A number stands for its run. -/
theorem standsFor_number
    {first : Char}
    (starts : startsNumber first = true)
    (rest : List Char) :
    (Piece.ofLexeme (.number (String.ofList (numberRun (first :: rest))))
        ((numberRun (first :: rest)).length - 1)).StandsFor
      (first :: rest.take ((numberRun (first :: rest)).length - 1))
      (rest.drop ((numberRun (first :: rest)).length - 1)) := by
  have run : numberRun (first :: rest) = first :: numberRun rest := by
    rw [numberRun, isNumberCharacter_of_startsNumber starts,
      Bool.true_or, if_pos rfl]
  have taken : rest.take (numberRun rest).length = numberRun rest :=
    (List.prefix_iff_eq_take.mp (numberRun_isPrefix rest)).symm
  have whole : numberRun rest ++ rest.drop (numberRun rest).length = rest :=
    List.prefix_iff_eq_append.mp (numberRun_isPrefix rest)
  rw [run, List.length_cons, Nat.add_sub_cancel, taken]
  exact .lexeme rfl String.toList_ofList (.number starts (whole.symm ▸ run))

/-- A part without line end lies in the first line. -/
theorem take_lineLength_append
    {part : List Char}
    (noFeed : '\n' ∉ part)
    (rest : List Char) :
    (part ++ rest).take (lineLength (part ++ rest)) =
      part ++ rest.take (lineLength rest) := by
  have accepted : ∀ character ∈ part, (character != '\n') = true := by
    intro character member
    exact bne_iff_ne.mpr fun feed => noFeed (feed ▸ member)
  rw [lineLength, lineLength, take_takeWhile, take_takeWhile,
    List.takeWhile_append_of_pos accepted]

/-- A directive takes its line up to the end. -/
theorem isRenderingDirective_line
    {word behind : List Char}
    (isSet : word.map Char.toLower = "set".toList)
    (ahead : renderingKeyAhead behind = true)
    (stops : Stops Text.isWordCharacter behind) :
    IsRenderingDirective (word ++ behind.take (lineLength behind)) := by
  obtain ⟨blanks, setting, remainder, rfl, separates, known, wordCharacters⟩ :=
    renderingKeyAhead_split ahead stops
  have noFeedBlanks : '\n' ∉ blanks := by
    intro member
    rcases separates.2 '\n' member with space | tab
    · exact absurd space (by decide)
    · exact absurd tab (by decide)
  have noFeedSetting : '\n' ∉ setting := fun member =>
    absurd (wordCharacters '\n' member) (by decide)
  rw [take_lineLength_append noFeedBlanks, take_lineLength_append noFeedSetting]
  exact ⟨word, blanks, setting, _, rfl, isSet, separates, known,
    feed_not_mem_take_lineLength _⟩

/--
A word stands for its run, or for the rest of its line if that is a rendering
directive.
-/
theorem standsFor_word
    {first : Char}
    (letter : first.isAlpha = true)
    (rest : List Char) :
    (wordPiece first rest).StandsFor
      (first :: rest.take (wordPiece first rest).length)
      (rest.drop (wordPiece first rest).length) := by
  have stops := stops_drop_takeWhile Text.isWordCharacter rest
  by_cases directive :
      (Text.lower
          (String.ofList (first :: rest.takeWhile Text.isWordCharacter)) ==
            "set" &&
        renderingKeyAhead
          (rest.drop (rest.takeWhile Text.isWordCharacter).length)) = true
  · have isDropped : wordPiece first rest = Piece.dropped
        ((rest.takeWhile Text.isWordCharacter).length +
          lineLength
            (rest.drop (rest.takeWhile Text.isWordCharacter).length)) := by
      rw [wordPiece, if_pos directive]
    obtain ⟨isSet, ahead⟩ := Bool.and_eq_true_iff.mp directive
    rw [isDropped, Piece.dropped, List.take_add, take_takeWhile,
      ← List.drop_drop, ← List.cons_append]
    refine .skipped rfl (.directive ?_ (endsLine_drop_lineLength _))
    refine isRenderingDirective_line ?_ ahead stops
    rw [← String.toList_ofList (l := (first :: _).map Char.toLower)]
    exact congrArg String.toList (by simpa [Text.lower] using isSet)
  · have isWord : wordPiece first rest = Piece.ofLexeme
        (.word (String.ofList (first :: rest.takeWhile Text.isWordCharacter)))
        (rest.takeWhile Text.isWordCharacter).length := by
      rw [wordPiece, if_neg directive]
    rw [isWord, Piece.ofLexeme, take_takeWhile]
    refine .lexeme rfl String.toList_ofList (.word letter ?_ stops)
    exact fun _ member => List.mem_takeWhile_imp member

theorem isAlpha_of_toLower
    {first : Char}
    (lower : first.toLower = 's') :
    first.isAlpha = true := by
  unfold Char.toLower at lower
  split at lower
  · next upper =>
      rw [isAlpha_iff]
      exact .inl ⟨UInt32.le_iff_toNat_le.mp upper.1,
        UInt32.le_iff_toNat_le.mp upper.2⟩
  · rw [lower]
    decide

/-- A directive starts with a letter. -/
theorem IsRenderingDirective.starts
    {first : Char}
    {more : List Char}
    (rendering : IsRenderingDirective (first :: more)) :
    first.isAlpha = true := by
  obtain ⟨word, blanks, setting, remainder, whole, isSet, -⟩ := rendering.split
  cases word with
  | nil => cases isSet
  | cons letter others =>
      rw [(List.cons.inj whole).1]
      exact isAlpha_of_toLower (List.cons.inj isSet).1

/-- A character that starts no kind of piece starts nothing. -/
theorem startsNothing
    {first : Char}
    {rest : List Char}
    (blank : ¬ Text.isBlank first = true)
    (line : ¬ (first == '/' && ['/'].isPrefixOf rest) = true)
    (block : ¬ (first == '/' && ['*'].isPrefixOf rest) = true)
    (sign : first ∉ ['\x7b', '\x7d', '>', '*', '#'])
    (number : ¬ startsNumber first = true)
    (letter : ¬ first.isAlpha = true) :
    StartsNothing (first :: rest) := by
  intro part behind whole nonempty
  obtain ⟨more, rfl⟩ : ∃ more, part = first :: more := by
    cases part with
    | nil => exact absurd rfl nonempty
    | cons head more => exact ⟨more, by rw [(List.cons.inj whole).1]⟩
  rw [List.cons_append, List.cons.injEq] at whole
  obtain ⟨-, rfl⟩ := whole
  constructor
  · intro skipped
    cases skipped with
    | blanks allBlank => exact blank (allBlank first List.mem_cons_self)
    | lineComment => exact line rfl
    | blockComment => exact block rfl
    | directive rendering => exact letter rendering.starts
  · intro lexeme written cut
    cases cut with
    | word isLetter =>
        rw [Lexeme.text, String.toList_ofList] at written
        exact letter ((List.cons.inj written).1 ▸ isLetter)
    | number starts =>
        rw [Lexeme.text, String.toList_ofList] at written
        exact number ((List.cons.inj written).1 ▸ starts)
    | colour =>
        rw [Lexeme.text, String.toList_ofList] at written
        exact sign (by simp [← (List.cons.inj written).1])
    | openBrace =>
        have same : ['\x7b'] = first :: more := written
        exact sign (by simp [← (List.cons.inj same).1])
    | closeBrace =>
        have same : ['\x7d'] = first :: more := written
        exact sign (by simp [← (List.cons.inj same).1])
    | star =>
        have same : ['*'] = first :: more := written
        exact sign (by simp [← (List.cons.inj same).1])
    | greater =>
        have same : ['>'] = first :: more := written
        exact sign (by simp [← (List.cons.inj same).1])

/-- What the piece at the front of a text may be. -/
inductive IsFrontOf
    (cursor : Cursor)
    (first : Char)
    (rest : List Char) :
    Except Fault Piece → Prop
  | ok
      {found : Piece}
      (standsFor : found.StandsFor (first :: rest.take found.length)
        (rest.drop found.length)) :
      IsFrontOf cursor first rest (.ok found)
  | error
      {fault : Fault}
      (faulty : ∀ before, cursor.place = Place.behind before →
        IsFaultAt before (first :: rest) fault) :
      IsFrontOf cursor first rest (.error fault)

/-- What the scanner takes from a text is its front, by one of the rules. -/
theorem isFrontOf_piece
    (cursor : Cursor)
    (first : Char)
    (rest : List Char) :
    IsFrontOf cursor first rest (piece cursor first rest) := by
  unfold piece
  by_cases blank : Text.isBlank first = true
  · rw [if_pos blank]
    exact .ok (.skipped rfl (isSkipped_blanks blank rest))
  rw [if_neg blank]
  by_cases line : (first == '/' && ['/'].isPrefixOf rest) = true
  · rw [if_pos line]
    obtain ⟨rfl, others, rfl⟩ := front_of_isPrefixOf line
    exact .ok (.skipped rfl (isSkipped_lineComment others))
  rw [if_neg line]
  by_cases block : (first == '/' && ['*'].isPrefixOf rest) = true
  · rw [if_pos block]
    obtain ⟨rfl, others, rfl⟩ := front_of_isPrefixOf block
    rw [List.drop_succ_cons, List.drop_zero]
    cases ended : commentLength? others with
    | some length => exact .ok (.skipped rfl (isSkipped_blockComment ended))
    | none =>
        refine .error fun before here => ?_
        rw [here]
        exact .unterminatedComment (commentLength?_eq_none ended)
  rw [if_neg block]
  by_cases opening : (first == '\x7b') = true
  · rw [if_pos opening, beq_iff_eq.mp opening]
    exact .ok (.lexeme rfl rfl .openBrace)
  rw [if_neg opening]
  by_cases closing : (first == '\x7d') = true
  · rw [if_pos closing, beq_iff_eq.mp closing]
    exact .ok (.lexeme rfl rfl .closeBrace)
  rw [if_neg closing]
  by_cases greater : (first == '>') = true
  · rw [if_pos greater, beq_iff_eq.mp greater]
    exact .ok (.lexeme rfl rfl .greater)
  rw [if_neg greater]
  by_cases star : (first == '*') = true
  · rw [if_pos star, beq_iff_eq.mp star]
    exact .ok (.lexeme rfl rfl .star)
  rw [if_neg star]
  by_cases hash : (first == '#') = true
  · rw [if_pos hash, beq_iff_eq.mp hash]
    by_cases define :
        (cursor.lineStart && "define".toList.isPrefixOf rest) = true
    · rw [if_pos define]
      obtain ⟨others, rfl⟩ :=
        List.isPrefixOf_iff_prefix.mp (Bool.and_eq_true_iff.mp define).2
      refine .error fun before here => ?_
      rw [here]
      exact .preprocessor
    · rw [if_neg define]
      refine .ok (.lexeme rfl ?_ (isCut_colour rest))
      rw [Lexeme.text, String.toList_ofList, Piece.ofLexeme, take_takeWhile]
  rw [if_neg hash]
  by_cases number : startsNumber first = true
  · rw [if_pos number]
    exact .ok (standsFor_number number rest)
  rw [if_neg number]
  by_cases letter : first.isAlpha = true
  · rw [if_pos letter]
    exact .ok (standsFor_word letter rest)
  · rw [if_neg letter]
    refine .error fun before here => ?_
    rw [here]
    have sign : first ∉ ['\x7b', '\x7d', '>', '*', '#'] := by
      simp only [beq_iff_eq] at opening closing greater star hash
      simp [opening, closing, greater, star, hash]
    exact .unexpectedCharacter
      (startsNothing blank line block sign number letter)

/-- The tokens of a text that starts with a piece. -/
def Piece.withTokens
    (found : Piece)
    (place : Place)
    (later : List Token) : List Token :=
  found.lexeme.elim later fun lexeme => ⟨lexeme, place⟩ :: later

/-- A piece in front of a covered text covers both together. -/
theorem Piece.StandsFor.covers
    {found : Piece}
    {part text behind before : List Char}
    (standsFor : found.StandsFor part (text ++ behind))
    {later : List Token}
    (covers : Covers behind (before ++ part) later text) :
    Covers behind before (found.withTokens (Place.behind before) later)
      (part ++ text) := by
  unfold Piece.withTokens
  cases standsFor with
  | skipped silent skipped =>
      rw [silent]
      exact .skip skipped covers
  | lexeme holds written cut =>
      subst written
      rw [holds]
      exact .token cut covers

/-- One piece is cut off, and the text behind it is accounted for by itself. -/
theorem IsAccountOf.of_piece
    {found : Piece}
    {before part rest : List Char}
    (standsFor : found.StandsFor part rest)
    {answer : Except Fault (List Token)}
    (later : IsAccountOf (before ++ part) rest answer) :
    IsAccountOf before (part ++ rest)
      (answer.map (found.withTokens (Place.behind before))) := by
  cases answer with
  | error fault =>
      obtain ⟨covered, behind, tokens, rfl, covers, isFault⟩ := later
      rw [List.append_assoc] at isFault
      exact ⟨part ++ covered, behind, _, (List.append_assoc ..).symm,
        standsFor.covers covers, isFault⟩
  | ok tokens =>
      have covers := Piece.StandsFor.covers (by rwa [List.append_nil]) later.1
      exact ⟨covers, covers.pairwise⟩

/-- The tokens of a text are those of its first piece and those behind it. -/
theorem tokensFrom_of_piece
    {cursor : Cursor}
    {first : Char}
    {rest : List Char}
    {found : Piece}
    (taken : piece cursor first rest = .ok found) :
    tokensFrom cursor (first :: rest) =
      (tokensFrom (cursor.after found (first :: rest.take found.length))
        (rest.drop found.length)).map (found.withTokens cursor.place) := by
  rw [tokensFrom, taken]
  dsimp only
  cases tokensFrom (cursor.after found (first :: rest.take found.length))
      (rest.drop found.length) with
  | error fault => rfl
  | ok tokens =>
      cases holds : found.lexeme <;> simp [Except.map, Piece.withTokens, holds]

/-- Every answer of scanning accounts for the text that was scanned. -/
theorem isAccountOf_tokensFrom
    {cursor : Cursor}
    {before : List Char}
    (here : cursor.place = Place.behind before)
    (text : List Char) :
    IsAccountOf before text (tokensFrom cursor text) := by
  -- The text behind a piece is shorter, and the cursor moves over the piece.
  induction size : text.length using Nat.strong_induction_on
    generalizing text cursor before with
  | _ length inductionHypothesis =>
  cases text with
  | nil =>
      rw [tokensFrom]
      exact ⟨.nothing, .nil⟩
  | cons first rest =>
      have front := isFrontOf_piece cursor first rest
      cases taken : piece cursor first rest with
      | error fault =>
          rw [taken] at front
          cases front with
          | error faulty =>
              rw [tokensFrom, taken]
              exact ⟨[], first :: rest, [], rfl, .nothing, by
                simpa using faulty before here⟩
      | ok found =>
          rw [taken] at front
          cases front with
          | ok standsFor =>
          rw [tokensFrom_of_piece taken, here]
          have next :
              (cursor.after found (first :: rest.take found.length)).place =
              Place.behind (before ++ first :: rest.take found.length) := by
            rw [Cursor.after, here, Place.after_behind]
          have shorter : (rest.drop found.length).length < length := by
            rw [← size, List.length_drop, List.length_cons]
            omega
          have step := IsAccountOf.of_piece standsFor
            (inductionHypothesis _ shorter next _ rfl)
          rwa [List.cons_append, List.take_append_drop] at step

/--
A source that is scanned is the texts of its tokens with blanks, comments and
rendering directives between them; places are counted from what stands before
them and increase. A fault stands behind a text of which the same holds: at a
character with which nothing starts, at a comment that is not closed, or on the
line of a definition.
-/
theorem tokens_account_for_source (source : String) :
    IsAccountOf [] source.toList (tokens source) :=
  isAccountOf_tokensFrom rfl source.toList

end Eisen.Script
