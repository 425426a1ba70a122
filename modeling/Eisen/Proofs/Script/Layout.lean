import Eisen.Proofs.Script.Reaching
import Mathlib.Data.List.Basic

namespace Eisen.Script

/-!
# What a line may hold without a trace

A line comment in front of a line feed, and a whole line with a rendering
directive, can be taken out of a source: what is scanned stays the same, with
all places and faults. There is one exception. A number takes slashes as well,
so a comment that touches a number becomes a part of it.
-/

/-- The cursor in front of a line. -/
def Cursor.atLine (line : Nat) : Cursor where
  place := ⟨line, 1⟩
  lineStart := true

/-- A line end leads to the start of the next line. -/
theorem tokensFrom_feed
    (cursor : Cursor)
    (rest : List Char) :
    tokensFrom cursor ('\n' :: rest) =
      tokensFrom (Cursor.atLine (cursor.place.line + 1)) rest := by
  have next : cursor.past ['\n'] = Cursor.atLine (cursor.place.line + 1) := by
    simp [Cursor.past, Cursor.atLine, Place.after, Place.next]
  rw [tokensFrom_blank (by decide), next]

theorem endsLine_feed (behind : List Char) : EndsLine ('\n' :: behind) :=
  fun _ isNext => (Option.some.inj isNext).symm

/-- What is skipped up to the end of a line is skipped with the line. -/
theorem tokensFrom_line
    {part behind : List Char}
    (skipped : IsSkipped part ('\n' :: behind))
    (oneLine : '\n' ∉ part)
    (cursor : Cursor) :
    tokensFrom cursor (part ++ '\n' :: behind) =
      tokensFrom (Cursor.atLine (cursor.place.line + 1)) behind := by
  have sameLine : (cursor.past part).place.line = cursor.place.line :=
    Place.line_after oneLine cursor.place
  rw [tokensFrom_skipped skipped, tokensFrom_feed, sameLine]

theorem IsRenderingDirective.oneLine
    {part : List Char}
    (rendering : IsRenderingDirective part) :
    '\n' ∉ part := by
  obtain ⟨word, blanks, setting, remainder, rfl, isSet, ⟨-, blank⟩,
      known, oneLine⟩ :=
    rendering.split
  obtain ⟨first, more, rfl, letter, isWord⟩ := exists_letter_of_set isSet
  have noFeedFirst : '\n' ≠ first := by
    rintro rfl
    exact absurd letter (by decide)
  have noFeedBlanks : '\n' ∉ blanks :=
    feed_not_mem_of_isSeparator (by simpa [isSeparator] using blank)
  have noFeedSetting :=
    feed_not_mem_of_isWordCharacter (isWordCharacter_of_known known).2
  have noFeedMore := feed_not_mem_of_isWordCharacter isWord
  simp [noFeedFirst, noFeedMore, noFeedBlanks, noFeedSetting, oneLine]

/-- A rendering directive reaches to the end of its line. -/
theorem IsRenderingDirective.append
    {part more : List Char}
    (rendering : IsRenderingDirective part)
    (oneLine : '\n' ∉ more) :
    IsRenderingDirective (part ++ more) := by
  obtain ⟨word, blanks, setting, remainder, rfl, isSet, separates,
      known, noFeed⟩ :=
    rendering.split
  refine ⟨word, blanks, setting, remainder ++ more, by
    simp, isSet, separates, known, ?_⟩
  simp [noFeed, oneLine]

/-- A skipped part ends by itself, or it takes all that follows on its line. -/
theorem IsSkipped.ends_or_goes_on
    {part behind : List Char}
    (skipped : IsSkipped part behind) :
    (∀ other, IsSkipped part other) ∨
      '\n' ∉ part ∧ ∀ more, '\n' ∉ more → ∀ other, EndsLine other →
        IsSkipped (part ++ more) other := by
  cases skipped with
  | blanks blank => exact .inl fun _ => .blanks blank
  | @lineComment comment _ oneLine _ =>
      refine .inr ⟨by simpa using oneLine, fun more noFeed other ends => ?_⟩
      exact .lineComment (by simp [oneLine, noFeed]) ends
  | blockComment unclosed => exact .inl fun _ => .blockComment unclosed
  | directive rendering _ =>
      refine .inr ⟨rendering.oneLine, fun more noFeed other ends => ?_⟩
      exact .directive (rendering.append noFeed) ends

/-! Comments at the end of a line. -/

/-- Nothing, or a line comment. -/
inductive IsRemark : List Char → Prop
  | none : IsRemark []
  | comment
      {comment : List Char}
      (oneLine : '\n' ∉ comment) :
      IsRemark ('/' :: '/' :: comment)

namespace IsRemark

variable {remark : List Char}

theorem oneLine (isRemark : IsRemark remark) : '\n' ∉ remark := by
  cases isRemark with
  | none => exact List.not_mem_nil
  | comment oneLine => simpa using oneLine

theorem isSkipped
    (isRemark : IsRemark remark)
    (behind : List Char) :
    IsSkipped remark ('\n' :: behind) := by
  cases isRemark with
  | none => exact .blanks (List.forall_mem_nil _)
  | comment oneLine => exact .lineComment oneLine (endsLine_feed behind)

theorem isBreak
    (isRemark : IsRemark remark)
    (behind : List Char) :
    IsBreak (remark ++ '\n' :: behind) := by
  cases isRemark with
  | none => exact fun next isNext => .inl (endsLine_feed behind next isNext)
  | comment _ => exact fun _ isNext => .inr (Option.some.inj isNext).symm

/-- Behind a skipped part, a remark is skipped up to the end of the line. -/
theorem tokensFrom_behind_skipped
    (isRemark : IsRemark remark)
    {part : List Char}
    (skipped : IsSkipped part [])
    (behind : List Char)
    (cursor : Cursor) :
    tokensFrom cursor (part ++ (remark ++ '\n' :: behind)) =
      tokensFrom (Cursor.atLine ((cursor.place.after part).line + 1))
        behind := by
  rcases skipped.ends_or_goes_on with ends | ⟨oneLine, goesOn⟩
  · rw [tokensFrom_skipped (ends _),
      tokensFrom_line (isRemark.isSkipped behind) isRemark.oneLine]
    rfl
  · have noFeed : '\n' ∉ part ++ remark := by simp [oneLine, isRemark.oneLine]
    rw [Place.line_after oneLine, ← List.append_assoc,
      tokensFrom_line
        (goesOn remark isRemark.oneLine _ (endsLine_feed behind)) noFeed]

end IsRemark

/-- The last token is a number, and the text ends with it. -/
def EndsInNumber
    (text : List Char)
    (found : List Token) : Prop :=
  ∃ front number, text = front ++ number.toList ∧
    found.getLast? = some ⟨.number number, Place.behind front⟩

/-- Tokens can be put in front one at a time. -/
theorem map_append_singleton
    (answer : Except Fault (List Token))
    (front : List Token)
    (token : Token) :
    (answer.map (token :: ·)).map (front ++ ·) =
      answer.map (front ++ [token] ++ ·) := by
  cases answer with
  | error fault => rfl
  | ok found => exact congrArg Except.ok (List.append_cons front token found)

/-- A cursor that is reached stands behind a part of the text. -/
theorem Reaches.exists_behind
    {goal : Cursor}
    {left text : List Char}
    {found : List Token}
    (reaches : Reaches goal left Cursor.start text found) :
    ∃ part, text = part ++ left ∧ goal.place = Place.behind part := by
  obtain ⟨part, whole, place⟩ := reaches.exists_part
  exact ⟨part, whole, place.trans (Place.after_behind [] part)⟩

/--
Behind a text that is scanned, a remark does not change how the next
lines are scanned.
-/
theorem tokensFrom_append_remark
    {text remark : List Char}
    {found : List Token}
    (scanned : tokensFrom Cursor.start text = .ok found)
    (isRemark : IsRemark remark)
    (apart : EndsInNumber text found → remark = [])
    (behind : List Char) :
    tokensFrom Cursor.start (text ++ (remark ++ '\n' :: behind)) =
      (tokensFrom (Cursor.atLine ((Place.behind text).line + 1)) behind).map
        (found ++ ·) := by
  obtain ⟨goal, reaches⟩ := tokensFrom_eq_ok_iff.mp scanned
  have isBreak := isRemark.isBreak behind
  cases reaches.endsIn with
  | nothing empty none =>
      subst empty none
      rw [map_nil_append, List.nil_append,
        tokensFrom_line (isRemark.isSkipped behind) isRemark.oneLine]
      rfl
  | @skipped here part reached nonempty skipped =>
      obtain ⟨front, rfl, place⟩ := reached.exists_behind
      rw [(reached.append nonempty (.inl isBreak)).tokensFrom_eq,
        isRemark.tokensFrom_behind_skipped skipped, place, Place.after_behind]
  | @lexeme here lexeme front reached taken last =>
      obtain ⟨before, rfl, place⟩ := reached.exists_behind
      have still : lexeme.IsTaken here (remark ++ '\n' :: behind) := by
        refine taken.append (.inl isBreak) fun _ number isNumber => ?_
        subst isNumber
        have endsInNumber : EndsInNumber (before ++ number.toList) found :=
          ⟨before, number, rfl, by rw [last, List.getLast?_concat, place]⟩
        rw [apart endsInNumber]
        exact endsLine_feed behind
      have line : (here.behind lexeme).place =
          Place.behind (before ++ lexeme.text.toList) := by
        rw [Cursor.behind, place, Place.after_behind]
      rw [(reached.append taken.cut.text_ne_nil (.inl isBreak)).tokensFrom_eq,
        tokensFrom_taken still,
        tokensFrom_line (isRemark.isSkipped behind) isRemark.oneLine, line,
        last, map_append_singleton]

/-- Fronts of one text that end at the same place are equal. -/
theorem Place.eq_of_behind_eq
    {first second firstRest secondRest : List Char}
    (whole : first ++ firstRest = second ++ secondRest)
    (samePlace : Place.behind first = Place.behind second) :
    first = second := by
  have apart : ∀ {text more : List Char},
      Place.behind text = Place.behind (text ++ more) → more = [] := by
    intro text more same
    by_contra nonempty
    have precedes := Place.behind_precedes text nonempty
    rw [← same] at precedes
    unfold Place.Precedes at precedes
    omega
  rcases List.append_eq_append_iff.mp whole with ⟨more, rfl, -⟩ | ⟨more, rfl, -⟩
  · rw [apart samePlace, List.append_nil]
  · rw [apart samePlace.symm, List.append_nil]

/-- A number goes on with the number that follows it. -/
theorem numberRun_append_of_whole
    {run : List Char}
    (whole : numberRun run = run)
    (more : List Char) :
    numberRun (run ++ more) = run ++ numberRun more := by
  induction run with
  | nil => rfl
  | cons character rest inductionHypothesis =>
      rw [numberRun] at whole
      split at whole
      · next belongs =>
          have still : (isNumberCharacter character ||
              (character == '*' && startsOperand (rest ++ more))) = true := by
            simp only [Bool.or_eq_true, Bool.and_eq_true] at belongs ⊢
            exact belongs.imp_right
              (And.imp_right (startsOperand_append · more))
          rw [List.cons_append, numberRun, if_pos still,
            inductionHypothesis (List.cons.inj whole).2, List.cons_append]
      · cases whole

/-- A number at the end of a text takes the slashes that follow it. -/
theorem exists_number_with_slashes
    {text : List Char}
    {found : List Token}
    (scanned : tokensFrom Cursor.start text = .ok found)
    (endsInNumber : EndsInNumber text found)
    {more : List Char}
    {answer : List Token}
    (commented :
      tokensFrom Cursor.start (text ++ '/' :: '/' :: more) = .ok answer) :
    ∃ front number longer place later,
      found = front ++ [⟨.number number, place⟩] ∧
        answer = front ++ ⟨.number longer, place⟩ :: later ∧
        longer.toList = number.toList ++ '/' :: '/' :: numberRun more := by
  obtain ⟨before, number, whole, isLast⟩ := endsInNumber
  obtain ⟨front, rfl⟩ := List.getLast?_eq_some_iff.mp isLast
  obtain ⟨goal, reaches⟩ := tokensFrom_eq_ok_iff.mp scanned
  obtain ⟨here, behind, reached, place, taken, -⟩ := reaches.split
  obtain ⟨part, shape, herePlace⟩ := reached.exists_behind
  -- The token stands where the text ends with its number, so nothing is behind
  -- it.
  obtain rfl : before = part :=
    Place.eq_of_behind_eq (whole ▸ shape) (place.trans herePlace)
  obtain rfl : behind = [] := by
    have same : number.toList = number.toList ++ behind :=
      List.append_cancel_left (whole.symm.trans shape)
    simpa using same
  rw [List.append_nil] at reached
  have isBreak : IsBreak ('/' :: '/' :: more) :=
    fun _ isNext => .inr (Option.some.inj isNext).symm
  rw [(reached.append taken.cut.text_ne_nil (.inl isBreak)).tokensFrom_eq]
    at commented
  cases taken.cut with
  | @number first rest _ starts run =>
      rw [List.append_nil] at run
      have longer : numberRun (first :: (rest ++ '/' :: '/' :: more)) =
          first :: rest ++ '/' :: '/' :: numberRun more :=
        numberRun_append_of_whole run ('/' :: '/' :: more)
      rw [Lexeme.text, String.toList_ofList, List.cons_append,
        tokensFrom_of_piece (piece_of_startsNumber starts here _)] at commented
      generalize tokensFrom _ _ = rest at commented
      cases rest with
      | error fault => cases commented
      | ok later =>
          cases commented
          have samePlace : Place.behind before = here.place := place
          refine ⟨front, _, _, here.place, later, by rw [samePlace], rfl, ?_⟩
          rw [String.toList_ofList, String.toList_ofList, longer]

/--
A line comment behind a text that is scanned makes no difference, in tokens,
places or faults, unless the text ends in a number. The number takes the
slashes, so the lexemes differ wherever both texts are scanned.
-/
theorem line_comment_is_ignored_unless_behind_number
    {source comment : String}
    {found : List Token}
    (scanned : tokens source = .ok found)
    (oneLine : '\n' ∉ comment.toList)
    (behind : String) :
    (¬ EndsInNumber source.toList found →
      tokens (source ++ "//" ++ comment ++ "\n" ++ behind) =
        tokens (source ++ "\n" ++ behind)) ∧
    (EndsInNumber source.toList found → ∀ commented plain,
      tokens (source ++ "//" ++ comment ++ "\n" ++ behind) = .ok commented →
        tokens (source ++ "\n" ++ behind) = .ok plain →
        commented.map Token.lexeme ≠ plain.map Token.lexeme) := by
  have slashes : "//".toList = ['/', '/'] := by decide
  have feed : "\n".toList = ['\n'] := by decide
  have isComment : IsRemark ('/' :: '/' :: comment.toList) := .comment oneLine
  have withComment : tokens (source ++ "//" ++ comment ++ "\n" ++ behind) =
      tokensFrom Cursor.start
        (source.toList ++
          ('/' :: '/' :: comment.toList ++ '\n' :: behind.toList)) := by
    simp [tokens, String.toList_append, slashes, feed]
  have without : tokens (source ++ "\n" ++ behind) =
      tokensFrom Cursor.start
        (source.toList ++ ([] ++ '\n' :: behind.toList)) := by
    simp [tokens, String.toList_append, feed]
  have plainAnswer :=
    tokensFrom_append_remark scanned .none (fun _ => rfl) behind.toList
  rw [withComment, without]
  constructor
  · intro noNumber
    rw [plainAnswer,
      tokensFrom_append_remark scanned isComment
        (fun ends => absurd ends noNumber)]
  · intro endsInNumber commented plain commentedScanned plainScanned sameLexemes
    obtain ⟨front, number, longer, place, later, rfl, rfl, long⟩ :=
      exists_number_with_slashes scanned endsInNumber commentedScanned
    rw [plainAnswer] at plainScanned
    generalize tokensFrom _ _ = rest at plainScanned
    cases rest with
    | error fault => cases plainScanned
    | ok others =>
        cases plainScanned
        have same : longer = number ∧
            later.map Token.lexeme = others.map Token.lexeme := by
          simpa using sameLexemes
        rw [same.1] at long
        simp at long

/-- In `{ x 1// wide` the comment is scanned, since it touches the number. -/
theorem line_comment_behind_number_is_scanned :
    ∃ commented plain,
      tokens ("\x7b x 1" ++ "//" ++ " wide" ++ "\n" ++ "\x7d box") =
        .ok commented ∧
        tokens ("\x7b x 1" ++ "\n" ++ "\x7d box") = .ok plain ∧
        ⟨.number "1//", ⟨1, 5⟩⟩ ∈ commented ∧
        commented.map Token.lexeme ≠ plain.map Token.lexeme := by
  have scanned : tokens "\x7b x 1" =
      .ok [⟨.openBrace, ⟨1, 1⟩⟩, ⟨.word "x", ⟨1, 3⟩⟩,
        ⟨.number "1", ⟨1, 5⟩⟩] := by
    decide +kernel
  have commented :
      tokens ("\x7b x 1" ++ "//" ++ " wide" ++ "\n" ++ "\x7d box") =
      .ok [⟨.openBrace, ⟨1, 1⟩⟩, ⟨.word "x", ⟨1, 3⟩⟩, ⟨.number "1//", ⟨1, 5⟩⟩,
        ⟨.word "wide", ⟨1, 9⟩⟩, ⟨.closeBrace, ⟨2, 1⟩⟩,
        ⟨.word "box", ⟨2, 3⟩⟩] := by
    decide +kernel
  have plain : tokens ("\x7b x 1" ++ "\n" ++ "\x7d box") =
      .ok [⟨.openBrace, ⟨1, 1⟩⟩, ⟨.word "x", ⟨1, 3⟩⟩, ⟨.number "1", ⟨1, 5⟩⟩,
        ⟨.closeBrace, ⟨2, 1⟩⟩, ⟨.word "box", ⟨2, 3⟩⟩] := by
    decide +kernel
  have oneLine : '\n' ∉ " wide".toList := by decide
  have law :=
    line_comment_is_ignored_unless_behind_number scanned oneLine "\x7d box"
  exact ⟨_, _, commented, plain, by simp,
    law.2 ⟨"\x7b x ".toList, "1", by decide, by decide⟩ _ _ commented plain⟩

/-! Lines that only concern rendering. -/

/-- A key that starts with the name of a rendering setting. -/
def IsRenderingKey (key : List Char) : Prop :=
  ∃ setting ∈ renderingSettings, setting.toList <+: key.map Char.toLower

/-- A rendering key begins with a known setting. -/
theorem IsRenderingKey.exists_known
    {key : List Char}
    (rendering : IsRenderingKey key) :
    ∃ setting others, key = setting ++ others ∧
      String.ofList (setting.map Char.toLower) ∈ renderingSettings := by
  obtain ⟨name, known, front⟩ := rendering
  obtain ⟨setting, others, rfl, spelled, -⟩ :=
    List.append_eq_map_iff.mp front.choose_spec
  exact ⟨setting, others, rfl, by rwa [spelled, String.ofList_toList]⟩

/--
A line that only concerns rendering: blanks, `set`, spaces or tabs, a key that
starts with the name of a rendering setting, and anything.
-/
structure IsRenderingLine (line : List Char) : Prop where
  split : ∃ indent word blanks key remainder,
    line = indent ++ (word ++ (blanks ++ (key ++ remainder))) ∧
      (∀ character ∈ indent, Text.isBlank character = true) ∧
      word.map Char.toLower = "set".toList ∧
      (blanks ≠ [] ∧ ∀ character ∈ blanks, isSeparator character = true) ∧
      IsRenderingKey key
  oneLine : '\n' ∉ line

/-- A rendering line is a directive behind blanks. -/
theorem IsRenderingLine.exists_directive
    {line : List Char}
    (rendering : IsRenderingLine line) :
    ∃ indent directive, line = indent ++ directive ∧
      (∀ character ∈ indent, Text.isBlank character = true) ∧
        IsRenderingDirective directive := by
  obtain ⟨indent, word, blanks, key, remainder, rfl, blank, isSet,
      ⟨nonempty, separates⟩,
    isKey⟩ := rendering.split
  obtain ⟨setting, others, rfl, known⟩ := isKey.exists_known
  refine ⟨indent, _, rfl, blank, word, blanks, setting, others ++ remainder,
    by simp, isSet, ⟨nonempty, by simpa [isSeparator] using separates⟩,
    known, ?_⟩
  have oneLine := rendering.oneLine
  simp only [List.mem_append, not_or] at oneLine ⊢
  exact ⟨oneLine.2.2.2.1.2, oneLine.2.2.2.2⟩

/-- A rendering line is skipped together with its end. -/
theorem IsRenderingLine.tokensFrom_eq
    {line : List Char}
    (rendering : IsRenderingLine line)
    (behind : List Char)
    (cursor : Cursor) :
    tokensFrom cursor (line ++ '\n' :: behind) =
      tokensFrom (Cursor.atLine (cursor.place.line + 1)) behind := by
  have oneLine := rendering.oneLine
  obtain ⟨indent, directive, rfl, blank, isDirective⟩ :=
    rendering.exists_directive
  simp only [List.mem_append, not_or] at oneLine
  have sameLine : (cursor.past indent).place.line = cursor.place.line :=
    Place.line_after oneLine.1 cursor.place
  rw [List.append_assoc, tokensFrom_skipped (.blanks blank),
    tokensFrom_line
      (.directive isDirective (endsLine_feed behind)) oneLine.2, sameLine]

theorem Lexeme.IsCut.oneLine
    {lexeme : Lexeme}
    {behind : List Char}
    (cut : lexeme.IsCut behind) :
    '\n' ∉ lexeme.text.toList := by
  cases cut with
  | @word first more _ letter others _ =>
      have noFeed : '\n' ≠ first := by
        rintro rfl
        exact absurd letter (by decide)
      simp [Lexeme.text, noFeed, feed_not_mem_of_isWordCharacter others]
  | @colour more _ others _ =>
      have noFeed : '\n' ∉ more :=
        fun member => absurd (others '\n' member) (by decide)
      simp [Lexeme.text, noFeed]
  | number _ run =>
      rw [Lexeme.text, String.toList_ofList, ← run]
      exact fun member => absurd (isNumeric_of_mem_numberRun member) (by decide)
  | openBrace => decide
  | closeBrace => decide
  | star => decide
  | greater => decide

/-- A skipped part that ends in a line feed is a run of blanks. -/
theorem IsSkipped.ends_of_getLast?
    {part behind : List Char}
    (skipped : IsSkipped part behind)
    (isLast : part.getLast? = some '\n') :
    ∀ other, IsSkipped part other := by
  rcases skipped.ends_or_goes_on with ends | ⟨oneLine, -⟩
  · exact ends
  · exact absurd (List.mem_of_getLast? isLast) oneLine

/--
Behind a whole number of lines that are scanned, anything is scanned by itself.
-/
theorem exists_cursor_behind_lines
    {text : List Char}
    {found : List Token}
    (scanned : tokensFrom Cursor.start text = .ok found)
    (fresh : text = [] ∨ text.getLast? = some '\n') :
    ∃ cursor : Cursor, ∀ behind,
      tokensFrom Cursor.start (text ++ behind) =
        (tokensFrom cursor behind).map (found ++ ·) := by
  obtain ⟨goal, reaches⟩ := tokensFrom_eq_ok_iff.mp scanned
  cases reaches.endsIn with
  | nothing empty none =>
      subst empty none
      exact ⟨Cursor.start, fun behind => (map_nil_append _).symm⟩
  | @skipped here part reached nonempty skipped =>
      obtain ⟨front, rfl, -⟩ := reached.exists_behind
      have isLast : part.getLast? = some '\n' := by
        rcases fresh with empty | isLast
        · exact absurd (List.append_eq_nil_iff.mp empty).2 nonempty
        · rwa [List.getLast?_append_of_ne_nil _ nonempty] at isLast
      refine ⟨here.past part, fun behind => ?_⟩
      rw [(reached.append nonempty
          (.inr (List.mem_of_getLast? isLast))).tokensFrom_eq,
        tokensFrom_skipped (skipped.ends_of_getLast? isLast behind)]
  | @lexeme here lexeme front reached taken last =>
      obtain ⟨before, rfl, -⟩ := reached.exists_behind
      rcases fresh with empty | isLast
      · exact absurd (List.append_eq_nil_iff.mp empty).2 taken.cut.text_ne_nil
      · rw [List.getLast?_append_of_ne_nil _ taken.cut.text_ne_nil] at isLast
        exact absurd (List.mem_of_getLast? isLast) taken.cut.oneLine

/--
A line that only concerns rendering can be taken out of a source, whatever else
it holds: tokens, places and faults stay the same.
-/
theorem rendering_line_leaves_no_trace
    {source line : String}
    {found : List Token}
    (scanned : tokens source = .ok found)
    (fresh : source.toList = [] ∨ source.toList.getLast? = some '\n')
    (rendering : IsRenderingLine line.toList)
    (behind : String) :
    tokens (source ++ line ++ "\n" ++ behind) =
      tokens (source ++ "\n" ++ behind) := by
  have feed : "\n".toList = ['\n'] := by decide
  obtain ⟨cursor, scans⟩ := exists_cursor_behind_lines scanned fresh
  have withLine : tokens (source ++ line ++ "\n" ++ behind) =
      tokensFrom Cursor.start
        (source.toList ++ (line.toList ++ '\n' :: behind.toList)) := by
    simp [tokens, String.toList_append, feed]
  have without : tokens (source ++ "\n" ++ behind) =
      tokensFrom Cursor.start (source.toList ++ '\n' :: behind.toList) := by
    simp [tokens, String.toList_append, feed]
  rw [withLine, without, scans, scans, rendering.tokensFrom_eq, tokensFrom_feed]

/-- A directive may hold stray signs, an open comment and a definition. -/
theorem rendering_line_leaves_no_trace_behind_box :
    tokens ("box\n" ++ "  SET\tseedling ;\" /* #define \x7b" ++
      "\n" ++ "grid") =
        tokens ("box\n" ++ "\n" ++ "grid") ∧
      tokens ("box\n" ++ "\n" ++ "grid") =
        .ok [⟨.word "box", ⟨1, 1⟩⟩, ⟨.word "grid", ⟨3, 1⟩⟩] := by
  have scanned : tokens "box\n" = .ok [⟨.word "box", ⟨1, 1⟩⟩] := by
    decide +kernel
  have rendering :
      IsRenderingLine "  SET\tseedling ;\" /* #define \x7b".toList :=
    ⟨⟨"  ".toList, "SET".toList, ['\t'], "seedling".toList,
        " ;\" /* #define \x7b".toList,
      by decide, List.all_eq_true.mp (by decide), by decide,
      ⟨by decide, List.forall_mem_singleton.mpr rfl⟩, "seed", by decide, by
          decide⟩, by decide⟩
  exact ⟨rendering_line_leaves_no_trace scanned
    (.inr (by decide)) rendering "grid",
    by decide +kernel⟩

end Eisen.Script
