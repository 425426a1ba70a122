import Eisen.Proofs.Script.Covering

namespace Eisen.Script

/-!
# Scanning up to a point

Scanning goes through a text part by part: it skips blanks, comments and
rendering directives and takes lexemes. `Reaches` says how far it gets and which
tokens it finds on the way, each part being judged with everything behind it in
place. A text is scanned without a fault exactly if its end is reached.

What stands behind a text can change the last part of it only: scanning looks no
farther than the next line feed or slash.
-/

/-- The cursor behind a part that gives no token. -/
def Cursor.past
    (cursor : Cursor)
    (part : List Char) : Cursor where
  place := cursor.place.after part
  lineStart := cursor.lineStart || part.contains '\n'

/-- The cursor behind a lexeme. -/
def Cursor.behind
    (cursor : Cursor)
    (lexeme : Lexeme) : Cursor where
  place := cursor.place.after lexeme.text.toList
  lineStart := false

theorem Place.after_append
    (place : Place)
    (first second : List Char) :
    place.after (first ++ second) = (place.after first).after second :=
  List.foldl_append

theorem Cursor.past_append
    (cursor : Cursor)
    (first second : List Char) :
    cursor.past (first ++ second) = (cursor.past first).past second := by
  have feeds : (first ++ second).contains '\n' =
      (first.contains '\n' || second.contains '\n') :=
    List.contains_append
  simp only [Cursor.past, Place.after_append, feeds, Bool.or_assoc]

/-! Skipping. -/

/-- A piece without lexeme gives no token. -/
theorem tokensFrom_of_silent
    {cursor : Cursor}
    {first : Char}
    {rest : List Char}
    {found : Piece}
    (taken : piece cursor first rest = .ok found)
    (silent : found.lexeme = none) :
    tokensFrom cursor (first :: rest) =
      tokensFrom (cursor.after found (first :: rest.take found.length))
        (rest.drop found.length) := by
  have same : found.withTokens cursor.place = id := by
    funext later
    rw [Piece.withTokens, silent]
    rfl
  rw [tokensFrom_of_piece taken, same]
  cases tokensFrom (cursor.after found (first :: rest.take found.length))
      (rest.drop found.length) <;> rfl

/-- A gap gives no token. -/
theorem tokensFrom_gap
    {cursor : Cursor}
    {first : Char}
    {rest : List Char}
    {length : Nat}
    (taken : piece cursor first rest = .ok (Piece.gap length)) :
    tokensFrom cursor (first :: rest) =
      tokensFrom (cursor.past (first :: rest.take length)) (rest.drop length) :=
  tokensFrom_of_silent taken rfl

/-- Blanks are skipped one by one. -/
theorem tokensFrom_blank
    {first : Char}
    (blank : Text.isBlank first = true)
    (cursor : Cursor)
    (rest : List Char) :
    tokensFrom cursor (first :: rest) =
      tokensFrom (cursor.past [first]) rest := by
  have run : ∀ (here : Cursor) (character : Char) (others : List Char),
      Text.isBlank character = true →
      tokensFrom here (character :: others) =
        tokensFrom (here.past (character :: others.takeWhile Text.isBlank))
          (others.drop (others.takeWhile Text.isBlank).length) := by
    intro here character others isBlank
    rw [tokensFrom_gap (by rw [piece, if_pos isBlank]), take_takeWhile]
  rw [run cursor first rest blank]
  cases rest with
  | nil => rfl
  | cons next others =>
      by_cases another : Text.isBlank next = true
      · rw [run (cursor.past [first]) next others another,
          List.takeWhile_cons_of_pos another, ← Cursor.past_append]
        rfl
      · rw [List.takeWhile_cons_of_neg another]
        rfl

/-- Blanks give no token. -/
theorem tokensFrom_blanks
    {part : List Char}
    (blank : ∀ character ∈ part, Text.isBlank character = true)
    (behind : List Char)
    (cursor : Cursor) :
    tokensFrom cursor (part ++ behind) =
      tokensFrom (cursor.past part) behind := by
  induction part generalizing cursor with
  | nil =>
      have here : cursor.past [] = cursor := by simp [Cursor.past, Place.after]
      rw [List.nil_append, here]
  | cons first rest inductionHypothesis =>
      obtain ⟨isBlank, others⟩ := List.forall_mem_cons.mp blank
      rw [List.cons_append, tokensFrom_blank isBlank,
        inductionHypothesis others, ← Cursor.past_append]
      rfl

/-- Where a line ends, it no longer counts whether it was empty. -/
theorem tokensFrom_of_endsLine
    {behind : List Char}
    (ends : EndsLine behind)
    {first second : Cursor}
    (samePlace : first.place = second.place) :
    tokensFrom first behind = tokensFrom second behind := by
  cases behind with
  | nil => rw [tokensFrom, tokensFrom]
  | cons next rest =>
      obtain rfl : next = '\n' := ends next rfl
      have sameCursor : first.past ['\n'] = second.past ['\n'] := by
        simp [Cursor.past, samePlace]
      have blank : Text.isBlank '\n' = true := by decide
      rw [tokensFrom_blank blank, tokensFrom_blank blank, sameCursor]

/-- A part without line end reaches to the end of its line. -/
theorem lineLength_append
    {part behind : List Char}
    (oneLine : '\n' ∉ part)
    (ends : EndsLine behind) :
    lineLength (part ++ behind) = part.length := by
  have accepted : ∀ character ∈ part, (character != '\n') = true := by
    intro character member
    exact bne_iff_ne.mpr fun feed => oneLine (feed ▸ member)
  have nothing : behind.takeWhile (· != '\n') = [] := by
    cases behind with
    | nil => rfl
    | cons next rest =>
        obtain rfl : next = '\n' := ends next rfl
        rfl
  rw [lineLength, List.takeWhile_append_of_pos accepted, nothing,
    List.append_nil]

/-- A block comment is closed by its first end mark. -/
theorem commentLength?_append
    {comment : List Char}
    (unclosed : ¬ commentEnd <:+: comment)
    (behind : List Char) :
    commentLength? (comment ++ (commentEnd ++ behind)) =
      some (comment.length + 2) := by
  induction comment with
  | nil => rfl
  | cons character rest inductionHypothesis =>
      rw [List.infix_cons_iff, not_or] at unclosed
      have further := inductionHypothesis unclosed.2
      have noEnd : ∀ others, character = '*' →
          rest ++ (commentEnd ++ behind) = '/' :: others → False := by
        rintro others rfl starts
        cases rest with
        | nil => exact absurd (List.cons.inj starts).1 (by decide)
        | cons next more =>
            obtain ⟨rfl, -⟩ := List.cons.inj starts
            exact unclosed.1 ⟨more, rfl⟩
      rw [List.cons_append, commentLength?]
      · rw [further]
        rfl
      · exact noEnd

/-- A comment up to the end of its line gives no token. -/
theorem tokensFrom_lineComment
    {comment behind : List Char}
    (oneLine : '\n' ∉ comment)
    (ends : EndsLine behind)
    (cursor : Cursor) :
    tokensFrom cursor ('/' :: '/' :: comment ++ behind) =
      tokensFrom (cursor.past ('/' :: '/' :: comment)) behind := by
  have length :
      lineLength ('/' :: comment ++ behind) = ('/' :: comment).length :=
    lineLength_append (by simpa using oneLine) ends
  have taken : piece cursor '/' ('/' :: comment ++ behind) =
      .ok (Piece.gap ('/' :: comment).length) := by
    rw [← length]
    rfl
  rw [List.cons_append, tokensFrom_gap taken, List.take_left, List.drop_left]

/-- A comment up to its closing sign gives no token. -/
theorem tokensFrom_blockComment
    {comment : List Char}
    (unclosed : ¬ commentEnd <:+: comment)
    (behind : List Char)
    (cursor : Cursor) :
    tokensFrom cursor ('/' :: '*' :: (comment ++ commentEnd) ++ behind) =
      tokensFrom (cursor.past ('/' :: '*' :: (comment ++ commentEnd)))
        behind := by
  have taken : piece cursor '/' ('*' :: (comment ++ commentEnd) ++ behind) =
      .ok (Piece.gap ('*' :: (comment ++ commentEnd)).length) := by
    have noLine :
        ¬ ('/' == '/' &&
          ['/'].isPrefixOf ('*' :: (comment ++ (commentEnd ++ behind)))) =
            true :=
      Bool.false_ne_true
    have block :
        ('/' == '/' &&
          ['*'].isPrefixOf ('*' :: (comment ++ (commentEnd ++ behind)))) =
            true :=
      rfl
    rw [List.cons_append, List.append_assoc, piece, if_neg (by decide),
      if_neg noLine, if_pos block, List.drop_succ_cons, List.drop_zero,
      commentLength?_append unclosed]
    simp [commentEnd]
  rw [List.cons_append, tokensFrom_gap taken, List.take_left, List.drop_left]

/-- A run ends where something stops it. -/
theorem takeWhile_append_of_stops
    {accepts : Char → Bool}
    {more behind : List Char}
    (accepted : ∀ character ∈ more, accepts character = true)
    (stops : Stops accepts behind) :
    (more ++ behind).takeWhile accepts = more := by
  rw [List.takeWhile_append_of_pos accepted]
  cases behind with
  | nil => rw [List.takeWhile_nil, List.append_nil]
  | cons next rest =>
      rw [List.takeWhile_cons_of_neg (by simp [stops next rfl]),
        List.append_nil]

theorem isWordCharacter_of_isAlpha
    {character : Char}
    (letter : character.isAlpha = true) :
    Text.isWordCharacter character = true := by
  simp [Text.isWordCharacter, Char.isAlphanum, letter]

/-- Lower case makes no word characters. -/
theorem isWordCharacter_of_toLower
    {character : Char}
    (lower : Text.isWordCharacter character.toLower = true) :
    Text.isWordCharacter character = true := by
  unfold Char.toLower at lower
  split at lower
  · next upper =>
      have letter : character.isAlpha = true := isAlpha_iff character |>.mpr <|
        .inl ⟨UInt32.le_iff_toNat_le.mp upper.1,
          UInt32.le_iff_toNat_le.mp upper.2⟩
      exact isWordCharacter_of_isAlpha letter
  · exact lower

/--
A space or a tab: what may stand between `set` and the key of a directive.
-/
def isSeparator (character : Char) : Bool :=
  character == ' ' || character == '\t'

/-- A rendering key is ahead if the next word begins with a known setting. -/
theorem renderingKeyAhead_eq_any (rest : List Char) :
    renderingKeyAhead rest = renderingSettings.any fun setting =>
      setting.toList.isPrefixOf
        (((rest.dropWhile isSeparator).takeWhile Text.isWordCharacter).map
          Char.toLower) :=
  rfl

theorem not_isSeparator_of_isWordCharacter
    {character : Char}
    (word : Text.isWordCharacter character = true) :
    isSeparator character = false := by
  have noSpace : character ≠ ' ' := by
    rintro rfl
    exact absurd word (by decide)
  have noTab : character ≠ '\t' := by
    rintro rfl
    exact absurd word (by decide)
  simp [isSeparator, noSpace, noTab]

/-- Known settings are words. -/
theorem isWordCharacter_of_known
    {setting : List Char}
    (known : String.ofList (setting.map Char.toLower) ∈ renderingSettings) :
    setting ≠ [] ∧ ∀ character ∈ setting,
      Text.isWordCharacter character = true := by
  have checked : renderingSettings.all (fun name =>
      !name.toList.isEmpty && name.toList.all Text.isWordCharacter) =
        true := by decide
  have form := List.all_eq_true.mp checked _ known
  simp only [String.toList_ofList, Bool.and_eq_true, List.all_eq_true,
    Bool.not_eq_true', List.isEmpty_eq_false_iff, ne_eq,
    List.map_eq_nil_iff] at form
  refine ⟨form.1, fun character member => isWordCharacter_of_toLower ?_⟩
  exact form.2 character.toLower (List.mem_map_of_mem member)

/-- The name of a setting is seen behind spaces and tabs. -/
theorem renderingKeyAhead_of_known
    {blanks setting : List Char}
    (separates : ∀ character ∈ blanks, isSeparator character = true)
    (known : String.ofList (setting.map Char.toLower) ∈ renderingSettings)
    (rest : List Char) :
    renderingKeyAhead (blanks ++ (setting ++ rest)) = true := by
  obtain ⟨nonempty, word⟩ := isWordCharacter_of_known known
  have dropped : (blanks ++ (setting ++ rest)).dropWhile isSeparator =
      setting ++ rest := by
    obtain ⟨first, more, rfl⟩ := List.exists_cons_of_ne_nil nonempty
    have noSeparator :=
      not_isSeparator_of_isWordCharacter (word first List.mem_cons_self)
    rw [List.dropWhile_append_of_pos separates, List.cons_append,
      List.dropWhile_cons_of_neg (by simp [noSeparator])]
  rw [renderingKeyAhead_eq_any, dropped, List.takeWhile_append_of_pos word,
    List.map_append]
  refine List.any_eq_true.mpr ⟨_, known, List.isPrefixOf_iff_prefix.mpr ?_⟩
  rw [String.toList_ofList]
  exact List.prefix_append _ _

/--
A word with the letters of `set` starts with a letter and goes on with
word characters.
-/
theorem exists_letter_of_set
    {word : List Char}
    (isSet : word.map Char.toLower = "set".toList) :
    ∃ first more, word = first :: more ∧ first.isAlpha = true ∧
      ∀ character ∈ more, Text.isWordCharacter character = true := by
  have letters : "set".toList = ['s', 'e', 't'] := by decide
  rw [letters] at isSet
  cases word with
  | nil => cases isSet
  | cons first more =>
      obtain ⟨isFirst, isMore⟩ := List.cons.inj isSet
      refine ⟨first, more, rfl, isAlpha_of_toLower isFirst,
        fun character member => ?_⟩
      have lower : character.toLower ∈ ['e', 't'] :=
        isMore ▸ List.mem_map_of_mem member
      have checked : ['e', 't'].all Text.isWordCharacter = true := by decide
      exact isWordCharacter_of_toLower (List.all_eq_true.mp checked _ lower)

theorem feed_not_mem_of_isWordCharacter
    {characters : List Char}
    (word : ∀ character ∈ characters, Text.isWordCharacter character = true) :
    '\n' ∉ characters :=
  fun member => absurd (word '\n' member) (by decide)

theorem feed_not_mem_of_isSeparator
    {characters : List Char}
    (separates : ∀ character ∈ characters, isSeparator character = true) :
    '\n' ∉ characters :=
  fun member => absurd (separates '\n' member) (by decide)

/-- A rendering directive gives no token. -/
theorem tokensFrom_directive
    {part behind : List Char}
    (rendering : IsRenderingDirective part)
    (ends : EndsLine behind)
    (cursor : Cursor) :
    tokensFrom cursor (part ++ behind) =
      tokensFrom (cursor.past part) behind := by
  obtain ⟨word, blanks, setting, remainder, rfl, isSet, ⟨nonempty, blank⟩,
      known, oneLine⟩ :=
    rendering.split
  have separates : ∀ character ∈ blanks, isSeparator character = true := by
    simpa [isSeparator] using blank
  obtain ⟨first, more, rfl, letter, isWord⟩ := exists_letter_of_set isSet
  generalize line : blanks ++ (setting ++ remainder) = rest
  have restOneLine : '\n' ∉ rest := by
    have noFeed :=
      feed_not_mem_of_isWordCharacter (isWordCharacter_of_known known).2
    simp [← line, feed_not_mem_of_isSeparator separates, noFeed, oneLine]
  have stops : Stops Text.isWordCharacter (rest ++ behind) := by
    obtain ⟨next, others, rfl⟩ := List.exists_cons_of_ne_nil nonempty
    intro character isNext
    rw [← line] at isNext
    cases isNext
    rcases blank next List.mem_cons_self with rfl | rfl <;> decide
  have ahead : renderingKeyAhead (rest ++ behind) = true := by
    rw [← line, List.append_assoc, List.append_assoc]
    exact renderingKeyAhead_of_known separates known _
  have taken : piece cursor first (more ++ (rest ++ behind)) =
      .ok (Piece.dropped (more ++ rest).length) := by
    have lower : Text.lower (String.ofList (first :: more)) = "set" := by
      rw [Text.lower, String.toList_ofList, isSet, String.ofList_toList]
    rw [piece_of_isAlpha letter]
    simp only [wordPiece, takeWhile_append_of_stops isWord stops,
      List.drop_left, lower, ahead, lineLength_append restOneLine ends, BEq.rfl,
      Bool.and_self, if_true, List.length_append]
  rw [List.cons_append, List.cons_append, List.append_assoc,
    tokensFrom_of_silent taken rfl, ← List.append_assoc, Piece.dropped,
    List.take_left, List.drop_left]
  exact tokensFrom_of_endsLine ends rfl

/-- A part that gives no token is passed. -/
theorem tokensFrom_skipped
    {part behind : List Char}
    (skipped : IsSkipped part behind)
    (cursor : Cursor) :
    tokensFrom cursor (part ++ behind) =
      tokensFrom (cursor.past part) behind := by
  cases skipped with
  | blanks blank => exact tokensFrom_blanks blank behind cursor
  | lineComment oneLine ends => exact tokensFrom_lineComment oneLine ends cursor
  | blockComment unclosed =>
      exact tokensFrom_blockComment unclosed behind cursor
  | directive rendering ends => exact tokensFrom_directive rendering ends cursor

/-! Taking lexemes. -/

/--
A lexeme that is taken at a cursor: it is cut off, starts no directive and
is no definition.
-/
structure Lexeme.IsTaken
    (lexeme : Lexeme)
    (cursor : Cursor)
    (behind : List Char) : Prop where
  cut : lexeme.IsCut behind
  kept : lexeme.IsSet → renderingKeyAhead behind = false
  noDefinition : cursor.lineStart = true →
    ¬ "#define".toList <+: lexeme.text.toList

/--
A hash begins a colour, unless it begins a definition at the start of a line.
-/
theorem piece_hash
    (cursor : Cursor)
    (rest : List Char) :
    piece cursor '#' rest =
      if cursor.lineStart && "define".toList.isPrefixOf rest then
        .error (.preprocessor cursor.place.line)
      else
        .ok (Piece.ofLexeme
          (.word (String.ofList ('#' :: rest.takeWhile Char.isAlphanum)))
          (rest.takeWhile Char.isAlphanum).length) := by
  rw [piece, if_neg (by decide), if_neg (by simp), if_neg (by simp),
    if_neg (by decide), if_neg (by decide), if_neg (by decide),
    if_neg (by decide), if_pos (by decide)]

/-- A definition is told by the letters and digits behind `#`. -/
theorem define_isPrefixOf_iff (rest : List Char) :
    "define".toList.isPrefixOf rest = true ↔
      "#define".toList <+: '#' :: rest.takeWhile Char.isAlphanum := by
  have hash : "#define".toList = '#' :: "define".toList := by decide
  rw [hash, List.cons_prefix_cons, List.isPrefixOf_iff_prefix]
  constructor
  · rintro ⟨others, rfl⟩
    have letters : "define".toList.all Char.isAlphanum = true := by decide
    rw [List.takeWhile_append_of_pos (List.all_eq_true.mp letters)]
    exact ⟨rfl, List.prefix_append _ _⟩
  · rintro ⟨-, front⟩
    exact front.trans (List.takeWhile_prefix _)

/-- A lexeme gives its token at the place where it stands. -/
theorem tokensFrom_of_lexeme
    {lexeme : Lexeme}
    {cursor : Cursor}
    {first : Char}
    {more behind : List Char}
    (written : lexeme.text.toList = first :: more)
    (taken : piece cursor first (more ++ behind) =
      .ok (Piece.ofLexeme lexeme more.length)) :
    tokensFrom cursor (lexeme.text.toList ++ behind) =
      (tokensFrom (cursor.behind lexeme) behind).map
        (⟨lexeme, cursor.place⟩ :: ·) := by
  rw [written, List.cons_append, tokensFrom_of_piece taken, Piece.ofLexeme,
    List.take_left, List.drop_left, Cursor.behind, written]
  rfl

/-- A lexeme that is taken becomes a token at the cursor. -/
theorem tokensFrom_taken
    {lexeme : Lexeme}
    {cursor : Cursor}
    {behind : List Char}
    (taken : lexeme.IsTaken cursor behind) :
    tokensFrom cursor (lexeme.text.toList ++ behind) =
      (tokensFrom (cursor.behind lexeme) behind).map
        (⟨lexeme, cursor.place⟩ :: ·) := by
  obtain ⟨cut, kept, noDefinition⟩ := taken
  cases cut with
  | @word first more _ letter others stops =>
      refine tokensFrom_of_lexeme String.toList_ofList ?_
      have noDirective :
          ¬ (Text.lower (String.ofList (first :: more)) == "set" &&
          renderingKeyAhead behind) = true := by
        intro directive
        obtain ⟨isSet, ahead⟩ := Bool.and_eq_true_iff.mp directive
        rw [kept (beq_iff_eq.mp isSet)] at ahead
        cases ahead
      rw [piece_of_isAlpha letter]
      simp only [wordPiece, takeWhile_append_of_stops others stops,
        List.drop_left, noDirective, Bool.false_eq_true, if_false]
  | @colour more _ others stops =>
      refine tokensFrom_of_lexeme String.toList_ofList ?_
      have run := takeWhile_append_of_stops others stops
      have noDefine :
          ¬ (cursor.lineStart && "define".toList.isPrefixOf (more ++ behind)) =
          true := by
        intro define
        obtain ⟨lineStart, front⟩ := Bool.and_eq_true_iff.mp define
        rw [define_isPrefixOf_iff, run] at front
        exact noDefinition lineStart (by simpa [Lexeme.text] using front)
      rw [piece_hash, if_neg noDefine, run]
  | @number first more _ starts run =>
      refine tokensFrom_of_lexeme String.toList_ofList ?_
      rw [piece_of_startsNumber starts, run]
      rfl
  | openBrace => exact tokensFrom_of_lexeme rfl rfl
  | closeBrace => exact tokensFrom_of_lexeme rfl rfl
  | star => exact tokensFrom_of_lexeme rfl rfl
  | greater => exact tokensFrom_of_lexeme rfl rfl

theorem not_isSet_of_hash (more : List Char) :
    ¬ (Lexeme.word (String.ofList ('#' :: more))).IsSet := by
  intro isSet
  have letters :
      (Text.lower (String.ofList ('#' :: more))).toList = "set".toList :=
    congrArg String.toList isSet
  rw [Text.lower, String.toList_ofList, String.toList_ofList] at letters
  exact absurd (List.cons.inj letters).1 (by decide)

/-- A piece with a lexeme is taken. -/
theorem isTaken_of_piece
    {cursor : Cursor}
    {first : Char}
    {rest behind : List Char}
    {found : Piece}
    {lexeme : Lexeme}
    (taken : piece cursor first rest = .ok found)
    (holds : found.lexeme = some lexeme)
    (written : first :: rest = lexeme.text.toList ++ behind)
    (cut : lexeme.IsCut behind) :
    lexeme.IsTaken cursor behind := by
  refine ⟨cut, fun isSet => ?_, fun lineStart definition => ?_⟩
  · -- The word `set` in front of a rendering key would have been dropped.
    cases cut with
    | @word letter more _ isLetter others stops =>
        rw [Lexeme.text, String.toList_ofList, List.cons_append,
          List.cons.injEq] at written
        obtain ⟨rfl, rfl⟩ := written
        rw [piece_of_isAlpha isLetter] at taken
        simp only [wordPiece, takeWhile_append_of_stops others stops,
          List.drop_left] at taken
        by_contra ahead
        have directive : (Text.lower (String.ofList (first :: more)) == "set" &&
            renderingKeyAhead behind) = true :=
          Bool.and_eq_true_iff.mpr
            ⟨beq_iff_eq.mpr isSet, Bool.not_eq_false _ ▸ ahead⟩
        rw [if_pos directive] at taken
        cases Except.ok.inj taken
        cases holds
    | colour => exact absurd isSet (not_isSet_of_hash _)
    | number => cases isSet
    | openBrace => cases isSet
    | closeBrace => cases isSet
    | star => cases isSet
    | greater => cases isSet
  · have hash : "#define".toList = '#' :: "define".toList := by decide
    have front : "#define".toList <+: first :: rest :=
      written ▸ definition.trans (List.prefix_append _ _)
    rw [hash, List.cons_prefix_cons] at front
    obtain ⟨rfl, front⟩ := front
    have define :
        (cursor.lineStart && "define".toList.isPrefixOf rest) = true :=
      Bool.and_eq_true_iff.mpr ⟨lineStart, List.isPrefixOf_iff_prefix.mpr front⟩
    rw [piece_hash, if_pos define] at taken
    cases taken

/-! How far scanning gets. -/

/--
Scanning a text from a cursor gets to another cursor, in front of the text that
is left, and finds some tokens on the way.
-/
inductive Reaches (goal : Cursor) (left : List Char) : Cursor → List Char →
  List Token → Prop
  | here : Reaches goal left goal left []
  | skip
      {cursor : Cursor}
      {part behind : List Char}
      {found : List Token}
      (nonempty : part ≠ [])
      (skipped : IsSkipped part behind)
      (later : Reaches goal left (cursor.past part) behind found) :
      Reaches goal left cursor (part ++ behind) found
  | token
      {cursor : Cursor}
      {lexeme : Lexeme}
      {behind : List Char}
      {found : List Token}
      (taken : lexeme.IsTaken cursor behind)
      (later : Reaches goal left (cursor.behind lexeme) behind found) :
      Reaches goal left cursor (lexeme.text.toList ++ behind)
        (⟨lexeme, cursor.place⟩ :: found)

theorem map_cons_append
    (answer : Except Fault (List Token))
    (token : Token)
    (found : List Token) :
    (answer.map (found ++ ·)).map (token :: ·) =
      answer.map (token :: found ++ ·) := by
  cases answer <;> rfl

theorem map_nil_append (answer : Except Fault (List Token)) :
    answer.map ([] ++ ·) = answer := by
  cases answer <;> rfl

/-- What is left is scanned from where scanning has got to. -/
theorem Reaches.tokensFrom_eq
    {goal cursor : Cursor}
    {left text : List Char}
    {found : List Token}
    (reaches : Reaches goal left cursor text found) :
    tokensFrom cursor text = (tokensFrom goal left).map (found ++ ·) := by
  induction reaches with
  | here => exact (map_nil_append _).symm
  | skip _ skipped _ inductionHypothesis =>
      rw [tokensFrom_skipped skipped, inductionHypothesis]
  | token taken _ inductionHypothesis =>
      rw [tokensFrom_taken taken, inductionHypothesis, map_cons_append]

/-- A text is scanned without a fault exactly if its end is reached. -/
theorem tokensFrom_eq_ok_iff
    {cursor : Cursor}
    {text : List Char}
    {found : List Token} :
    tokensFrom cursor text = .ok found ↔
      ∃ goal, Reaches goal [] cursor text found := by
  constructor
  · intro scanned
    -- The text behind a piece is shorter, and the cursor moves over the piece.
    induction size : text.length using Nat.strong_induction_on
      generalizing text cursor found with
    | _ length inductionHypothesis =>
    cases text with
    | nil =>
        rw [tokensFrom] at scanned
        cases scanned
        exact ⟨cursor, .here⟩
    | cons first rest =>
        have front := isFrontOf_piece cursor first rest
        cases taken : piece cursor first rest with
        | error fault =>
            rw [tokensFrom, taken] at scanned
            cases scanned
        | ok piece =>
            rw [taken] at front
            cases front with
            | ok standsFor =>
            have whole : first :: rest =
                (first :: rest.take piece.length) ++
                  rest.drop piece.length := by
              rw [List.cons_append, List.take_append_drop]
            have shorter : (rest.drop piece.length).length < length := by
              rw [← size, List.length_drop, List.length_cons]
              omega
            cases standsFor with
            | skipped silent skipped =>
                rw [whole, tokensFrom_skipped skipped] at scanned
                obtain ⟨goal, reaches⟩ :=
                  inductionHypothesis _ shorter scanned rfl
                exact ⟨goal, whole ▸ .skip
                  (List.cons_ne_nil _ _) skipped reaches⟩
            | @lexeme lexeme holds written cut =>
                rw [← written] at whole
                have isTaken := isTaken_of_piece taken holds whole cut
                rw [whole, tokensFrom_taken isTaken] at scanned
                cases later : tokensFrom (cursor.behind lexeme)
                  (rest.drop piece.length) with
                | error fault =>
                    rw [later] at scanned
                    cases scanned
                | ok tokens =>
                    rw [later] at scanned
                    cases scanned
                    obtain ⟨goal, reaches⟩ :=
                      inductionHypothesis _ shorter later rfl
                    exact ⟨goal, whole ▸ .token isTaken reaches⟩
  · rintro ⟨goal, reaches⟩
    rw [reaches.tokensFrom_eq, tokensFrom]
    exact congrArg Except.ok (List.append_nil found)

/-- What is reached from a cursor that is reached is reached. -/
theorem Reaches.trans
    {goal here cursor : Cursor}
    {left between text : List Char}
    {front found : List Token}
    (first : Reaches here between cursor text front)
    (second : Reaches goal left here between found) :
    Reaches goal left cursor text (front ++ found) := by
  induction first with
  | here => exact second
  | skip nonempty skipped _ inductionHypothesis =>
      exact .skip nonempty skipped inductionHypothesis
  | token taken _ inductionHypothesis => exact .token taken inductionHypothesis

/-- A cursor that is reached stands behind a part of the text. -/
theorem Reaches.exists_part
    {goal cursor : Cursor}
    {left text : List Char}
    {found : List Token}
    (reaches : Reaches goal left cursor text found) :
    ∃ part, text = part ++ left ∧ goal.place = cursor.place.after part := by
  induction reaches with
  | here => exact ⟨[], rfl, rfl⟩
  | @skip cursor part behind _ _ _ _ inductionHypothesis =>
      obtain ⟨more, rfl, place⟩ := inductionHypothesis
      exact ⟨part ++ more, (List.append_assoc ..).symm, by
        rw [Place.after_append, place]; rfl⟩
  | @token cursor lexeme behind _ _ _ inductionHypothesis =>
      obtain ⟨more, rfl, place⟩ := inductionHypothesis
      exact ⟨lexeme.text.toList ++ more, (List.append_assoc ..).symm,
        by rw [Place.after_append, place]; rfl⟩

/-- What is left at a cursor that is reached is an end of the text. -/
theorem Reaches.isSuffix
    {goal cursor : Cursor}
    {left text : List Char}
    {found : List Token}
    (reaches : Reaches goal left cursor text found) :
    left <:+ text := by
  obtain ⟨part, whole, -⟩ := reaches.exists_part
  exact ⟨part, whole.symm⟩

/-- Scanning gets to each of the tokens that it finds. -/
theorem Reaches.split
    {goal cursor : Cursor}
    {left text : List Char}
    {front later : List Token}
    {token : Token}
    (reaches : Reaches goal left cursor text (front ++ token :: later)) :
    ∃ here behind,
      Reaches here (token.lexeme.text.toList ++ behind) cursor text front ∧
        token.place = here.place ∧
        token.lexeme.IsTaken here behind ∧
        Reaches goal left (here.behind token.lexeme) behind later := by
  generalize whole : front ++ token :: later = found at reaches
  induction reaches generalizing front with
  | here => exact absurd whole (by simp)
  | skip nonempty skipped _ inductionHypothesis =>
      obtain ⟨here, behind, reached, place, taken, further⟩ :=
        inductionHypothesis whole
      exact ⟨here, behind, .skip nonempty skipped reached, place,
        taken, further⟩
  | @token cursor lexeme behind found taken further inductionHypothesis =>
      cases front with
      | nil =>
          obtain ⟨rfl, rfl⟩ := List.cons.inj whole
          exact ⟨cursor, behind, .here, rfl, taken, further⟩
      | cons first others =>
          obtain ⟨rfl, rest⟩ := List.cons.inj whole
          obtain ⟨here, behind, reached, place, isTaken, further⟩ :=
            inductionHypothesis rest
          exact ⟨here, behind, .token taken reached, place, isTaken, further⟩

/-- What the last part of a text is, if it has one. -/
inductive EndsIn (cursor : Cursor) (text : List Char)
  (found : List Token) : Prop
  | nothing
      (empty : text = [])
      (none : found = [])
  | skipped
      {here : Cursor}
      {part : List Char}
      (reaches : Reaches here part cursor text found)
      (nonempty : part ≠ [])
      (skipped : IsSkipped part [])
  | lexeme
      {here : Cursor}
      {lexeme : Lexeme}
      {front : List Token}
      (reaches : Reaches here lexeme.text.toList cursor text front)
      (taken : lexeme.IsTaken here [])
      (last : found = front ++ [⟨lexeme, here.place⟩])

/-- A text that is passed as a whole ends in its tokens. -/
theorem Reaches.endsIn
    {goal cursor : Cursor}
    {text : List Char}
    {found : List Token}
    (reaches : Reaches goal [] cursor text found) :
    EndsIn cursor text found := by
  induction reaches with
  | here => exact .nothing rfl rfl
  | @skip cursor part behind found nonempty skipped _ inductionHypothesis =>
      cases inductionHypothesis with
      | nothing empty none =>
          subst empty none
          rw [List.append_nil]
          exact .skipped .here nonempty skipped
      | skipped reached laterNonempty laterSkipped =>
          exact .skipped
            (.skip nonempty skipped reached) laterNonempty laterSkipped
      | lexeme reached taken last =>
          exact .lexeme (.skip nonempty skipped reached) taken last
  | @token cursor lexeme behind found taken _ inductionHypothesis =>
      cases inductionHypothesis with
      | nothing empty none =>
          subst empty none
          rw [List.append_nil]
          exact .lexeme .here taken rfl
      | skipped reached laterNonempty laterSkipped =>
          exact .skipped (.token taken reached) laterNonempty laterSkipped
      | lexeme reached laterTaken last =>
          exact .lexeme (.token taken reached) laterTaken (congrArg _ last)

/-! What stands behind a text. -/

/-- Nothing, or something that starts with a line feed or a slash. -/
def IsBreak (behind : List Char) : Prop :=
  ∀ next ∈ behind.head?, next = '\n' ∨ next = '/'

/--
Two texts, one behind the other, between which scanning does not look ahead.
-/
def IsClosed (text more : List Char) : Prop :=
  IsBreak more ∨ '\n' ∈ text

/-- What follows a refused character does not change a run. -/
theorem takeWhile_append_break
    {accepts : Char → Bool}
    {stop : Char}
    (refused : accepts stop = false)
    (text more : List Char) :
    (text ++ stop :: more).takeWhile accepts = text.takeWhile accepts := by
  induction text with
  | nil => simp [refused]
  | cons character rest inductionHypothesis =>
      by_cases accepted : accepts character = true
      · simp [accepted, inductionHypothesis]
      · simp [accepted]

/-- What follows a refused character stays behind it. -/
theorem dropWhile_append_break
    {accepts : Char → Bool}
    {stop : Char}
    (refused : accepts stop = false)
    (text more : List Char) :
    (text ++ stop :: more).dropWhile accepts =
      text.dropWhile accepts ++ stop :: more := by
  induction text with
  | nil => simp [refused]
  | cons character rest inductionHypothesis =>
      by_cases accepted : accepts character = true
      · simp [accepted, inductionHypothesis]
      · simp [accepted]

/-- What follows a break does not change which key is ahead. -/
theorem renderingKeyAhead_append_break
    {stop : Char}
    (noSeparator : isSeparator stop = false)
    (noWord : Text.isWordCharacter stop = false)
    (text more : List Char) :
    renderingKeyAhead (text ++ stop :: more) = renderingKeyAhead text := by
  rw [renderingKeyAhead_eq_any, renderingKeyAhead_eq_any,
    dropWhile_append_break noSeparator, takeWhile_append_break noWord]

/-- The key of a directive does not reach over a line feed or a slash. -/
theorem renderingKeyAhead_append
    {text more : List Char}
    (closed : IsClosed text more) :
    renderingKeyAhead (text ++ more) = renderingKeyAhead text := by
  rcases closed with isBreak | feed
  · cases more with
    | nil => rw [List.append_nil]
    | cons stop others =>
        rcases isBreak stop rfl with rfl | rfl <;>
          exact renderingKeyAhead_append_break (by decide)
            (by decide) text others
  · obtain ⟨front, others, rfl⟩ := List.append_of_mem feed
    have overFeed :=
      @renderingKeyAhead_append_break '\n' (by decide) (by decide) front
    rw [List.append_assoc, List.cons_append, overFeed, overFeed]

/-- What stops a run stops it also in front of a closed text. -/
theorem stops_append
    {accepts : Char → Bool}
    (noFeed : accepts '\n' = false)
    (noSlash : accepts '/' = false)
    {text more : List Char}
    (stops : Stops accepts text)
    (closed : IsClosed text more) :
    Stops accepts (text ++ more) := by
  cases text with
  | cons first rest => exact stops
  | nil =>
      rcases closed with isBreak | feed
      · intro next isNext
        rcases isBreak next isNext with rfl | rfl
        · exact noFeed
        · exact noSlash
      · cases feed

theorem startsOperand_append
    {text : List Char}
    (operand : startsOperand text = true)
    (more : List Char) :
    startsOperand (text ++ more) = true := by
  cases text with
  | nil => cases operand
  | cons first rest => exact operand

theorem not_startsOperand_of_isBreak
    {more : List Char}
    (isBreak : IsBreak more) :
    startsOperand more = false := by
  cases more with
  | nil => rfl
  | cons next others => rcases isBreak next rfl with rfl | rfl <;> rfl

/-- A number that ends in front of something still ends there. -/
theorem numberRun_append
    {run text more : List Char}
    (ended : numberRun (run ++ text) = run)
    (closed : IsClosed text more)
    (apart : text = [] → EndsLine more) :
    numberRun (run ++ (text ++ more)) = run := by
  induction run with
  | nil =>
      cases text with
      | nil =>
          cases more with
          | nil => rfl
          | cons next others =>
              obtain rfl : next = '\n' := apart rfl next rfl
              rfl
      | cons character rest =>
          rw [List.nil_append, numberRun] at ended
          split at ended
          · cases ended
          · next refused =>
              rw [List.nil_append, List.cons_append, numberRun, if_neg]
              simp only [Bool.or_eq_true, Bool.and_eq_true, not_or,
                not_and] at refused ⊢
              refine refused.imp_right fun noOperand isStar operand => ?_
              cases rest with
              | cons next others => exact noOperand isStar operand
              | nil =>
                  rcases closed with isBreak | feed
                  · rw [List.nil_append,
                      not_startsOperand_of_isBreak isBreak] at operand
                    cases operand
                  · rw [← List.mem_singleton.mp feed] at isStar
                    cases isStar
  | cons character rest inductionHypothesis =>
      rw [List.cons_append, numberRun] at ended
      split at ended
      · next belongs =>
          have still : (isNumberCharacter character ||
              (character == '*' && startsOperand (rest ++ (text ++ more)))) =
                true := by
            rw [← List.append_assoc]
            simp only [Bool.or_eq_true, Bool.and_eq_true] at belongs ⊢
            exact belongs.imp_right
              (And.imp_right (startsOperand_append · more))
          rw [List.cons_append, numberRun, if_pos still,
            inductionHypothesis (List.cons.inj ended).2]
      · cases ended

/--
A lexeme that is taken is still taken where scanning does not look farther.
-/
theorem Lexeme.IsTaken.append
    {lexeme : Lexeme}
    {cursor : Cursor}
    {behind more : List Char}
    (taken : lexeme.IsTaken cursor behind)
    (closed : IsClosed behind more)
    (apart : behind = [] → ∀ number, lexeme = .number number → EndsLine more) :
    lexeme.IsTaken cursor (behind ++ more) := by
  refine ⟨?_, fun isSet => ?_, taken.noDefinition⟩
  · cases taken.cut with
    | word letter others stops =>
        exact .word letter others
          (stops_append (by decide) (by decide) stops closed)
    | colour others stops =>
        exact .colour others (stops_append (by decide) (by decide) stops closed)
    | @number first rest _ starts run =>
        have ended :
            numberRun (first :: rest ++ (behind ++ more)) = first :: rest :=
          numberRun_append run closed fun empty => apart empty _ rfl
        exact .number starts ended
    | openBrace => exact .openBrace
    | closeBrace => exact .closeBrace
    | star => exact .star
    | greater => exact .greater
  · rw [renderingKeyAhead_append closed]
    exact taken.kept isSet

/-- What is skipped in front of something is skipped in front of more. -/
theorem IsSkipped.append
    {part behind : List Char}
    (skipped : IsSkipped part behind)
    (nonempty : behind ≠ [])
    (more : List Char) :
    IsSkipped part (behind ++ more) := by
  obtain ⟨next, others, rfl⟩ := List.exists_cons_of_ne_nil nonempty
  cases skipped with
  | blanks blank => exact .blanks blank
  | lineComment oneLine ends => exact .lineComment oneLine ends
  | blockComment unclosed => exact .blockComment unclosed
  | directive rendering ends => exact .directive rendering ends

/--
Scanning gets as far as before where something is added behind what is left.
-/
theorem Reaches.append
    {goal cursor : Cursor}
    {left text : List Char}
    {found : List Token}
    (reaches : Reaches goal left cursor text found)
    (nonempty : left ≠ [])
    {more : List Char}
    (closed : IsClosed left more) :
    Reaches goal (left ++ more) cursor (text ++ more) found := by
  induction reaches with
  | here => exact .here
  | @skip cursor part behind found someText skipped later inductionHypothesis =>
      have behindNonempty : behind ≠ [] := fun empty =>
        nonempty (List.suffix_nil.mp (empty ▸ later.isSuffix))
      rw [List.append_assoc]
      exact .skip someText
        (skipped.append behindNonempty more) inductionHypothesis
  | @token cursor lexeme behind found taken later inductionHypothesis =>
      have behindNonempty : behind ≠ [] := fun empty =>
        nonempty (List.suffix_nil.mp (empty ▸ later.isSuffix))
      have behindClosed : IsClosed behind more :=
        closed.imp_right (later.isSuffix.subset ·)
      rw [List.append_assoc]
      exact .token
        (taken.append behindClosed fun empty => absurd empty behindNonempty)
        inductionHypothesis

end Eisen.Script
