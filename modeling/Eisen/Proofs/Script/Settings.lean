import Eisen.Proofs.Script.Layout
import Eisen.Proofs.Script.Verdicts

namespace Eisen.Script

/-!
# Settings that are refused

A directive that only concerns rendering is dropped while a source is scanned,
provided that its key is seen there: behind `set` and nothing but spaces and
tabs. Reading items takes the next token as the key, whatever stands between.
The two agree on a rendering key exactly where only spaces and tabs are between.
-/

/-! Refused settings among the tokens. -/

/-- Only a setting can be unknown as a setting. -/
theorem Verdict.fault_ne_unknownSetting
    {α : Type}
    {Complete : List Token → Prop}
    {read : List Token → Except Fault α}
    {tokens : List Token}
    {fault : Fault}
    (verdict : Verdict Fault.IsAt Complete read tokens fault)
    (line : Nat)
    (key : String) :
    fault ≠ .unknownSetting line key := by
  intro unknown
  cases verdict with
  | unfinished => cases unknown
  | final found _ => cases found <;> cases unknown

/-- The two keys that can be set. -/
def isDepthKey (key : String) : Bool :=
  Text.sameLetters key "maxdepth" || Text.sameLetters key "md"

/--
A setting is refused exactly where its key is a word that is no depth key.
-/
theorem setting_eq_unknown_iff
    {tokens : List Token}
    {line : Nat}
    {key : String} :
    setting tokens = .error (.unknownSetting line key) ↔
      ∃ name rest, tokens = name :: rest ∧ name.lexeme = .word key ∧
        name.place.line = line ∧ isDepthKey key = false := by
  constructor
  · intro failed
    unfold setting at failed
    split at failed
    · next refused =>
        cases failed
        have possible : ∃ token : Token, token.lexeme = .word key :=
          ⟨⟨_, Place.start⟩, rfl⟩
        exact ((takeWord_verdict possible refused).fault_ne_unknownSetting line
          key rfl).elim
    · next word name behind read =>
        obtain ⟨isWord, rfl⟩ := takeWord_eq_ok_iff.mp read
        split at failed
        · exact ((takeNumber_verdict failed).fault_ne_unknownSetting line
            key rfl).elim
        · next noDepth =>
            cases failed
            exact ⟨name, behind, rfl, isWord, rfl, Bool.not_eq_true _ ▸ noDepth⟩
  · rintro ⟨name, rest, rfl, isWord, rfl, noDepth⟩
    have read :
        takeWord .settingName (name :: rest) = .ok ((key, name), rest) :=
      takeWord_eq_ok_iff.mpr ⟨isWord, rfl⟩
    have refused : ¬(Text.sameLetters key "maxdepth" ||
        Text.sameLetters key "md") = true :=
      Bool.eq_false_iff.mp noDepth
    simp only [setting, read, if_neg refused]

/-- Whole items do not change what is wrong behind them. -/
theorem items_append_of_error
    {front rest : List Token}
    {parts : List Item}
    {fault : Fault}
    (complete : items front = .ok parts)
    (refused : items rest = .error fault) :
    items (front ++ rest) = .error fault := by
  have writes := items_eq_ok_iff.mp complete
  clear complete
  induction writes with
  | nil => exact refused
  | @cons written behind part _ head _ inductionHypothesis =>
      obtain ⟨token, others, rfl⟩ := head.starts
      have read : item token (others ++ (behind ++ rest)) =
          .ok (part, behind ++ rest) :=
        item_eq_ok_iff.mpr ⟨others, head, rfl⟩
      simp only [List.append_assoc, List.cons_append, items_cons, read,
        inductionHypothesis, Except.bind, Except.map]

/-- An unknown setting stands behind whole items and its keyword. -/
theorem items_eq_unknown_iff
    {tokens : List Token}
    {line : Nat}
    {key : String} :
    items tokens = .error (.unknownSetting line key) ↔
      ∃ front parts keyword name rest,
        tokens = front ++ keyword :: name :: rest ∧
          items front = .ok parts ∧
          keyword.isKeyword "set" = true ∧
          name.lexeme = .word key ∧
          name.place.line = line ∧
          isDepthKey key = false := by
  constructor
  · intro failed
    fun_induction items tokens with
    | case1 => cases failed
    | case2 token rest fault refused =>
        cases failed
        unfold item at refused
        split at refused
        · next isSet =>
            split at refused
            · next unset =>
                cases refused
                obtain ⟨name, others, rfl, isWord, isLine, noDepth⟩ :=
                  setting_eq_unknown_iff.mp unset
                exact ⟨[], [], token, name, others, rfl, by rw [items], isSet,
                  isWord, isLine, noDepth⟩
            · cases refused
        · split at refused
          · next isRule =>
              split at refused
              · next undefined =>
                  cases refused
                  exact ((rule_verdict isRule undefined).fault_ne_unknownSetting
                    line key rfl).elim
              · cases refused
          · split at refused
            · next uncalled =>
                cases refused
                exact ((call_verdict uncalled).fault_ne_unknownSetting line
                  key rfl).elim
            · cases refused
    | case3 token rest part behind read fault refused inductionHypothesis =>
        cases failed
        obtain ⟨front, parts, keyword, name, others, rfl, complete,
            isSet, isKey⟩ :=
          inductionHypothesis refused
        obtain ⟨written, writes, rfl⟩ := item_eq_ok_iff.mp read
        refine ⟨token :: written ++ front, part :: parts, keyword, name, others,
          by simp, ?_, isSet, isKey⟩
        exact items_eq_ok_iff.mpr (.cons writes (items_eq_ok_iff.mp complete))
    | case4 => cases failed
  · rintro ⟨front, parts, keyword, name, rest, rfl, complete, isSet, isWord,
      isLine, noDepth⟩
    have unset :=
      setting_eq_unknown_iff.mpr ⟨name, rest, rfl, isWord, isLine, noDepth⟩
    have refused : items (keyword :: name :: rest) =
        .error (.unknownSetting line key) := by
      simp only [items_cons, item, isSet, ↓reduceIte, unset, Except.bind]
    exact items_append_of_error complete refused

/--
A source has an unknown setting exactly if it is scanned and its
tokens have one.
-/
theorem ofSource_eq_unknown_iff
    {source : String}
    {line : Nat}
    {key : String} :
    ofSource source = .error (.unknownSetting line key) ↔
      ∃ found, tokens source = .ok found ∧
        items found = .error (.unknownSetting line key) := by
  constructor
  · intro failed
    have account : IsAccountOf [] source.toList (tokens source) :=
      isAccountOf_tokensFrom rfl source.toList
    unfold ofSource at failed
    split at failed
    · next faulty =>
        cases failed
        rw [faulty] at account
        obtain ⟨_, _, _, _, _, fault⟩ := account
        cases fault
    · next found scanned =>
        unfold ofTokens at failed
        split at failed
        · next refused =>
            cases failed
            exact ⟨found, scanned, refused⟩
        · split at failed <;> cases failed
  · rintro ⟨found, scanned, refused⟩
    simp only [ofSource, scanned, ofTokens_of_items_error refused]

/-! What is seen behind `set`. -/

theorem letters_of_lower
    {word letters : String}
    (lower : Text.lower word = letters) :
    word.toList.map Char.toLower = letters.toList := by
  rw [← lower, Text.lower, String.toList_ofList]

/-- Separators do not change which key is ahead. -/
theorem renderingKeyAhead_of_separators
    {blanks : List Char}
    (separates : ∀ character ∈ blanks, isSeparator character = true)
    (rest : List Char) :
    renderingKeyAhead (blanks ++ rest) = renderingKeyAhead rest := by
  rw [renderingKeyAhead_eq_any, renderingKeyAhead_eq_any,
    List.dropWhile_append_of_pos separates]

/-- In blanks no key is ahead. -/
theorem not_renderingKeyAhead_of_blanks
    {blanks : List Char}
    (blank : ∀ character ∈ blanks, Text.isBlank character = true) :
    renderingKeyAhead blanks = false := by
  have noWord :
      (blanks.dropWhile isSeparator).takeWhile Text.isWordCharacter = [] := by
    cases shape : blanks.dropWhile isSeparator with
    | nil => rfl
    | cons first rest =>
        have member : first ∈ blanks :=
          (List.dropWhile_sublist isSeparator).subset
            (shape ▸ List.mem_cons_self)
        refine List.takeWhile_cons_of_neg fun isWord => ?_
        cases (blank first member).symm.trans
          (not_isBlank_of_isWordCharacter isWord)
  rw [renderingKeyAhead_eq_any, noWord]
  decide

/-- The word `set` is not itself the key of a rendering directive. -/
theorem not_renderingKeyAhead_of_set
    {word behind : List Char}
    (isSet : word.map Char.toLower = "set".toList)
    (stops : Stops Text.isWordCharacter behind) :
    renderingKeyAhead (word ++ behind) = false := by
  obtain ⟨first, more, rfl, letter, others⟩ := exists_letter_of_set isSet
  have isWord :
      ∀ character ∈ first :: more, Text.isWordCharacter character = true := by
    intro character member
    rcases List.mem_cons.mp member with rfl | member
    · exact isWordCharacter_of_isAlpha letter
    · exact others character member
  have noSeparator :=
    not_isSeparator_of_isWordCharacter (isWord first List.mem_cons_self)
  have dropped : (first :: more ++ behind).dropWhile isSeparator =
      first :: more ++ behind :=
    List.dropWhile_cons_of_neg (by simp [noSeparator])
  rw [renderingKeyAhead_eq_any, dropped,
    takeWhile_append_of_stops isWord stops, isSet]
  decide

theorem not_renderingKeyAhead_of_slash (rest : List Char) :
    renderingKeyAhead ('/' :: rest) = false :=
  (renderingKeyAhead_append_break (by decide) (by decide) [] rest).trans
    (by decide)

/--
No key is seen over a text that gives no token, unless this text is made of
spaces and tabs only.
-/
theorem Reaches.not_renderingKeyAhead
    {goal cursor : Cursor}
    {gap left : List Char}
    (between : Reaches goal left cursor (gap ++ left) [])
    (detached : ∃ character ∈ gap, isSeparator character = false) :
    renderingKeyAhead (gap ++ left) = false := by
  generalize whole : gap ++ left = text at between
  generalize silent : ([] : List Token) = found at between
  induction between generalizing gap with
  | here =>
      obtain rfl : gap = [] := List.append_left_eq_self.mp whole
      obtain ⟨_, member, _⟩ := detached
      cases member
  | token => cases silent
  | @skip cursor part behind _ _ skipped later inductionHypothesis =>
      obtain ⟨more, rfl, -⟩ := later.exists_part
      obtain rfl : gap = part ++ more :=
        List.append_cancel_right (whole.trans (List.append_assoc ..).symm)
      cases skipped with
      | blanks blank =>
          by_cases separates : ∀ character ∈ part, isSeparator character = true
          · rw [renderingKeyAhead_of_separators separates]
            refine inductionHypothesis ?_ rfl silent
            obtain ⟨character, member, noSeparator⟩ := detached
            have notInPart : character ∉ part := fun inPart =>
              Bool.false_ne_true
                (noSeparator.symm.trans (separates character inPart))
            exact ⟨character,
              (List.mem_append.mp member).resolve_left notInPart, noSeparator⟩
          · -- Another blank ends the search for a key, and only blanks are in
            -- front of it.
            simp only [not_forall, Bool.not_eq_true] at separates
            obtain ⟨stop, member, noSeparator⟩ := separates
            have noWord : Text.isWordCharacter stop = false := by
              by_contra isWord
              have noBlank :=
                not_isBlank_of_isWordCharacter (Bool.not_eq_false _ ▸ isWord)
              cases (blank stop member).symm.trans noBlank
            obtain ⟨front, others, rfl⟩ := List.append_of_mem member
            rw [List.append_assoc, List.cons_append,
              renderingKeyAhead_append_break noSeparator noWord]
            exact not_renderingKeyAhead_of_blanks fun character inFront =>
              blank character (List.mem_append_left _ inFront)
      | lineComment => exact not_renderingKeyAhead_of_slash _
      | blockComment => exact not_renderingKeyAhead_of_slash _
      | directive rendering =>
          obtain ⟨word, blanks, setting, remainder, rfl, isSet,
              ⟨nonempty, blank⟩, -⟩ :=
            rendering.split
          rw [List.append_assoc]
          refine not_renderingKeyAhead_of_set isSet fun next isNext => ?_
          obtain ⟨first, others, rfl⟩ := List.exists_cons_of_ne_nil nonempty
          cases isNext
          rcases blank next List.mem_cons_self with rfl | rfl <;> decide

/-! Rendering keys that are refused. -/

theorem IsRenderingKey.starts
    {key : List Char}
    (rendering : IsRenderingKey key) :
    ∃ first more, key = first :: more ∧ Text.isWordCharacter first = true := by
  obtain ⟨setting, others, rfl, known⟩ := rendering.exists_known
  obtain ⟨nonempty, word⟩ := isWordCharacter_of_known known
  obtain ⟨first, more, rfl⟩ := List.exists_cons_of_ne_nil nonempty
  exact ⟨first, more ++ others, rfl, word first List.mem_cons_self⟩

/--
A key is no rendering key if its letters start with no name of a
rendering setting.
-/
theorem not_isRenderingKey
    {key word : String}
    (lower : Text.lower key = word)
    (unrelated : renderingSettings.all
      (fun setting => !setting.toList.isPrefixOf word.toList) =
      true) :
    ¬IsRenderingKey key.toList := by
  rintro ⟨setting, known, front⟩
  rw [letters_of_lower lower, ← List.isPrefixOf_iff_prefix] at front
  have checked := List.all_eq_true.mp unrelated setting known
  simp [front] at checked

theorem IsRenderingKey.noDepth
    {key : String}
    (rendering : IsRenderingKey key.toList) :
    isDepthKey key = false := by
  have lowerMaxDepth : Text.lower "maxdepth" = "maxdepth" := by decide
  have lowerDepth : Text.lower "md" = "md" := by decide
  by_contra isDepth
  simp only [isDepthKey, Text.sameLetters, lowerMaxDepth, lowerDepth,
    Bool.not_eq_false, Bool.or_eq_true, beq_iff_eq] at isDepth
  rcases isDepth with lower | lower
  · exact not_isRenderingKey lower (by decide) rendering
  · exact not_isRenderingKey lower (by decide) rendering

/-- A definition does not start with a word character. -/
theorem not_definition_of_isWordCharacter
    {first : Char}
    (isWord : Text.isWordCharacter first = true)
    (more : List Char) :
    ¬"#define".toList <+: first :: more := by
  intro definition
  have hash : "#define".toList = '#' :: "define".toList := by decide
  rw [hash, List.cons_prefix_cons] at definition
  exact absurd (definition.1 ▸ isWord) (by decide)

/--
A source in which `set` starts an item and the next token is the word `key`,
which stands on the given line, behind a gap that gives no token.
-/
inductive SetsKey
    (source : List Char)
    (key : String)
    (line : Nat)
    (gap : List Char) : Prop
  | found
      {here there : Cursor}
      {front : List Token}
      {parts : List Item}
      {word : String}
      {behind : List Char}
      (reaches : Reaches here (word.toList ++ (gap ++ (key.toList ++ behind)))
        Cursor.start source front)
      (complete : items front = .ok parts)
      (isSet : Text.lower word = "set")
      (wordEnds : (Lexeme.word word).IsCut (gap ++ (key.toList ++ behind)))
      (between : Reaches there (key.toList ++ behind) (here.behind (.word word))
        (gap ++ (key.toList ++ behind)) [])
      (keyEnds : (Lexeme.word key).IsCut behind)
      (isLine : there.place.line = line)

/-- The key of a refused setting is not seen behind its `set`. -/
theorem exists_setsKey
    {source key : String}
    {line : Nat}
    {found : List Token}
    (scanned : tokens source = .ok found)
    (failed : items found = .error (.unknownSetting line key)) :
    ∃ gap behind, SetsKey source.toList key line gap ∧
      renderingKeyAhead (gap ++ (key.toList ++ behind)) = false := by
  obtain ⟨front, parts, keyword, name, rest, rfl, complete, isSet, isKey,
      isLine, -⟩ :=
    items_eq_unknown_iff.mp failed
  obtain ⟨word, isWord, lower⟩ := Token.isKeyword_iff.mp isSet
  have setLetters : Text.lower word = "set" := lower.trans (by decide)
  obtain ⟨goal, reaches⟩ := tokensFrom_eq_ok_iff.mp scanned
  -- Scanning gets to the keyword, and from behind it to the key.
  obtain ⟨here, later, reached, -, wordTaken, further⟩ := reaches.split
  obtain ⟨there, behind, between, place, keyTaken, -⟩ :=
    @Reaches.split _ _ _ _ [] _ _ further
  obtain ⟨gap, rfl, -⟩ := between.exists_part
  rw [isWord] at reached wordTaken between
  rw [isKey] at reached wordTaken between keyTaken
  refine ⟨gap, behind, ?_, wordTaken.kept setLetters⟩
  exact .found reached complete setLetters wordTaken.cut between keyTaken.cut
    (place ▸ isLine)

/-- A rendering key that is detached from its `set` is refused. -/
theorem SetsKey.items_eq_unknown
    {source key : String}
    {line : Nat}
    {gap : List Char}
    {found : List Token}
    (sets : SetsKey source.toList key line gap)
    (rendering : IsRenderingKey key.toList)
    (detached : ∃ character ∈ gap, isSeparator character = false)
    (scanned : tokens source = .ok found) :
    items found = .error (.unknownSetting line key) := by
  cases sets with
  | @found here there front parts word behind reaches complete isSet wordEnds
    between keyEnds
      isLine =>
      have wordTaken :
          (Lexeme.word word).IsTaken here (gap ++ (key.toList ++ behind)) := by
        refine ⟨wordEnds, fun _ => between.not_renderingKeyAhead detached,
          fun _ => ?_⟩
        obtain ⟨first, more, spelled, letter, -⟩ :=
          exists_letter_of_set (letters_of_lower isSet)
        rw [Lexeme.text, spelled]
        exact not_definition_of_isWordCharacter
          (isWordCharacter_of_isAlpha letter) more
      have keyTaken : (Lexeme.word key).IsTaken there behind := by
        refine ⟨keyEnds, fun isSetKey => ?_, fun _ => ?_⟩
        · exact absurd rendering (not_isRenderingKey isSetKey (by decide))
        · obtain ⟨first, more, spelled, isWord⟩ := rendering.starts
          rw [Lexeme.text, spelled]
          exact not_definition_of_isWordCharacter isWord more
      have whole :=
        reaches.trans (.token wordTaken (between.trans (.token keyTaken .here)))
      have scannedFrom := whole.tokensFrom_eq.symm.trans scanned
      cases later : tokensFrom (there.behind (.word key)) behind with
      | error fault =>
          rw [later] at scannedFrom
          cases scannedFrom
      | ok rest =>
          rw [later] at scannedFrom
          cases scannedFrom
          have isKeyword :
              Token.isKeyword ⟨.word word, here.place⟩ "set" = true :=
            Token.isKeyword_iff.mpr ⟨word, rfl, isSet.trans (by decide)⟩
          exact items_eq_unknown_iff.mpr
            ⟨front, parts, ⟨.word word, here.place⟩,
            ⟨.word key, there.place⟩, rest, List.append_assoc .., complete,
            isKeyword, rfl,
            isLine, rendering.noDepth⟩

/--
A rendering key is refused as an unknown setting exactly where it is detached
from its `set`: the source is scanned, the key is the next token behind `set`,
and something else than spaces and tabs stands between the two.
-/
theorem rendering_key_is_refused_iff_detached
    {key : String}
    (rendering : IsRenderingKey key.toList)
    (source : String)
    (line : Nat) :
    ofSource source = .error (.unknownSetting line key) ↔
      (∃ found, tokens source = .ok found) ∧
        ∃ gap, SetsKey source.toList key line gap ∧
          ∃ character ∈ gap, isSeparator character = false := by
  rw [ofSource_eq_unknown_iff]
  constructor
  · rintro ⟨found, scanned, failed⟩
    obtain ⟨gap, behind, sets, unseen⟩ := exists_setsKey scanned failed
    refine ⟨⟨found, scanned⟩, gap, sets, ?_⟩
    -- Behind spaces and tabs only, the key would have been seen.
    by_contra attached
    simp only [not_exists, not_and, Bool.not_eq_false] at attached
    obtain ⟨setting, others, spelled, known⟩ := rendering.exists_known
    have seen := renderingKeyAhead_of_known attached known (others ++ behind)
    rw [spelled, List.append_assoc] at unseen
    cases seen.symm.trans unseen
  · rintro ⟨⟨found, scanned⟩, gap, sets, detached⟩
    exact ⟨found, scanned, sets.items_eq_unknown rendering detached scanned⟩

/-- A comment hides the key of a rendering directive, which is then refused. -/
theorem rendering_key_behind_comment_is_refused :
    ofSource "set /* fixed */ seed 42\nbox" =
      .error (.unknownSetting 1 "seed") ∧
      ∃ gap, SetsKey "set /* fixed */ seed 42\nbox".toList "seed" 1 gap ∧
        ∃ character ∈ gap, isSeparator character = false := by
  have refused : ofSource "set /* fixed */ seed 42\nbox" =
      .error (.unknownSetting 1 "seed") := by
    decide +kernel
  have rendering : IsRenderingKey "seed".toList :=
    ⟨"seed", by decide, by decide⟩
  exact ⟨refused,
    ((rendering_key_is_refused_iff_detached rendering _ 1).mp refused).2⟩

end Eisen.Script
