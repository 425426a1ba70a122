import Eisen.Json.Token
import Eisen.Json.Writer
import Eisen.Proofs.Json.Numbers

namespace Eisen.Json

/-!
# Lexemes of written values

What the writer puts for a string, a number or a literal is one lexeme for the
reader, whatever stands behind it. Only a number could go on behind its end, so
it must not stand in front of a digit, a point or an exponent.
-/

/-! Strings. -/

/--
The escape of a control character has two zeros and two hexadecimal digits.
-/
theorem codeEscape_eq
    {code : Nat}
    (control : code < 32) :
    codeEscape code =
      ['\\', 'u', '0', '0', (code / 16).digitChar, (code % 16).digitChar] := by
  revert code
  decide

/-- A hexadecimal digit has its value, is one byte and is no line end. -/
theorem hexValue?_digitChar
    {digit : Nat}
    (small : digit < 16) :
    Text.hexValue? digit.digitChar = some digit ∧ digit.digitChar.utf8Size = 1 ∧
      digit.digitChar ≠ '\n' := by
  revert digit
  decide

/--
Four hexadecimal digits, the first two zero, are read as the code they write.
-/
theorem hexCode_of_digits
    (place : Place)
    {high low : Nat}
    (highSmall : high < 16)
    (lowSmall : low < 16)
    (rest : List Text.Symbol) :
    hexCode place (some '0' :: some '0' :: some high.digitChar ::
      some low.digitChar :: rest) =
      .ok (16 * high + low) := by
  obtain ⟨highValue, highWidth, -⟩ := hexValue?_digitChar highSmall
  obtain ⟨lowValue, lowWidth, -⟩ := hexValue?_digitChar lowSmall
  have zeroWidth : ('0' : Char).utf8Size = 1 := by decide
  have zeroValue : Text.hexValue? '0' = some 0 := by decide
  have behind : ∃ behind, place.afterBytes? 4
      (some '0' :: some '0' :: some high.digitChar ::
        some low.digitChar :: rest) =
        some behind := by
    cases rest <;>
      simp [Place.afterBytes?, Text.width, zeroWidth, highWidth, lowWidth]
  obtain ⟨behind, isBehind⟩ := behind
  simp [hexCode, isBehind, zeroValue, highValue, lowValue]

/--
What reading the rest of a string gives, with one more character in front.
-/
def withCharacter
    (character : Char)
    (length : Nat) :
    Except Fault (List Text.Symbol × Nat) →
      Except Fault (List Text.Symbol × Nat)
  | .error fault => .error fault
  | .ok (more, count) => .ok (some character :: more, length + count)

/-- A backslash starts an escape of any form. -/
theorem readContent_escape
    (place : Place)
    {character : Char}
    {count : Nat}
    {symbols : List Text.Symbol}
    (escapes :
      escape (place.after (some '\\')) symbols = .ok (character, count)) :
    ∃ behind,
      readContent place (some '\\' :: symbols) =
        withCharacter character (1 + count)
          (readContent behind (symbols.drop count)) := by
  refine ⟨place.afterAll (some '\\' :: symbols.take count), ?_⟩
  rw [readContent, if_neg (by decide), if_pos rfl, escapes]
  simp only
  split <;> next result => rw [result]; rfl

/-- An escape of one letter stands for its character. -/
theorem escape_letter
    (place : Place)
    {letter character : Char}
    (notHex : letter ≠ 'u')
    (escapes : letterEscape? letter = some character)
    (rest : List Text.Symbol) :
    escape place (some letter :: rest) = .ok (character, 1) := by
  simp [escape, notHex, escapes]

/-- A control character is read back from its code. -/
theorem escape_code
    (place : Place)
    {code : Nat}
    (control : code < 32)
    (rest : List Text.Symbol) :
    escape place
        (some 'u' :: some '0' :: some '0' :: some (code / 16).digitChar ::
          some (code % 16).digitChar :: rest) =
      .ok (Char.ofNat code, 5) := by
  have value : 16 * (code / 16) + code % 16 = code := by omega
  have hex (place : Place) := hexCode_of_digits place
    (by omega : code / 16 < 16) (by omega : code % 16 < 16) rest
  simp only [escape, if_true, hexEscape, hex, value, bind, Except.bind]
  rw [if_neg (by omega), if_pos (by omega)]
  rfl

/-- A written character is read as the character. -/
theorem readContent_escapeCharacter
    (place : Place)
    (character : Char)
    (rest : List Text.Symbol) :
    ∃ behind,
      readContent place ((escapeCharacter character).map some ++ rest) =
        withCharacter character (escapeCharacter character).length
          (readContent behind rest) := by
  have letter {letter : Char} (notHex : letter ≠ 'u')
      (escapes : letterEscape? letter = some character) :
      ∃ behind, readContent place (some '\\' :: some letter :: rest) =
        withCharacter character 2 (readContent behind rest) :=
    readContent_escape place (escape_letter _ notHex escapes rest)
  unfold escapeCharacter
  split_ifs with quote backslash backspace feed newline carriage tab control
  · exact letter (by decide) (by rw [quote]; rfl)
  · exact letter (by decide) (by rw [backslash]; rfl)
  · exact letter (by decide) (by rw [backspace]; rfl)
  · exact letter (by decide) (by rw [feed]; rfl)
  · exact letter (by decide) (by rw [newline]; rfl)
  · exact letter (by decide) (by rw [carriage]; rfl)
  · exact letter (by decide) (by rw [tab]; rfl)
  · have escapes := escape_code (place.after (some '\\')) control rest
    rw [Char.ofNat_toNat] at escapes
    rw [codeEscape_eq control]
    exact readContent_escape place escapes
  · refine ⟨place.after (some character), ?_⟩
    rw [List.map_singleton, List.singleton_append, readContent, if_neg quote,
      if_neg backslash, if_neg control]
    split <;> next result => rw [result]; rfl

/-- A written text is read up to its closing quote. -/
theorem readContent_text
    (place : Place)
    (characters : List Char)
    (rest : List Text.Symbol) :
    readContent place
      ((characters.flatMap escapeCharacter).map some ++ some '"' :: rest) =
      .ok (characters.map some,
        (characters.flatMap escapeCharacter).length + 1) := by
  induction characters generalizing place with
  | nil =>
    rw [List.flatMap_nil, List.map_nil, List.nil_append,
      readContent, if_pos rfl]
    rfl
  | cons character more inductionHypothesis =>
    rw [List.flatMap_cons, List.map_append, List.append_assoc]
    obtain ⟨behind, read⟩ := readContent_escapeCharacter place character _
    rw [read, inductionHypothesis, withCharacter, List.length_append]
    simp [Nat.add_assoc]

/-- A text is read back from its escaped characters. -/
theorem readText_quoted
    (place : Place)
    (text : String)
    (rest : List Text.Symbol) :
    readText place
      ((text.toList.flatMap escapeCharacter).map some ++ some '"' :: rest) =
      .ok (text, (text.toList.flatMap escapeCharacter).length + 1) := by
  have decoded : Text.ofSymbols? (text.toList.map some) = some text := by
    simp [Text.ofSymbols?, List.filterMap_map]
  simp only [readText, readContent_text, decoded]

/-! Lexemes. -/

/--
A text is one lexeme wherever it stands in front of something that
ends a number.
-/
def Spells
    (text : List Char)
    (lexeme : Lexeme) : Prop :=
  ∀ (place : Place) (rest : List Text.Symbol),
    EndsNumber rest →
      ∃ token behind,
        token.lexeme = lexeme ∧
          tokensFrom .whole place (text.map some ++ rest) =
            token :: tokensFrom .whole behind rest

/--
Characters spell a lexeme if they are read as it in front of anything that ends
a number.
-/
theorem spells_of_lexemeAt
    {first : Char}
    {more : List Char}
    {lexeme : Lexeme}
    (noGap : isGap first = false)
    (found : ∀ (place : Place) (rest : List Text.Symbol),
      EndsNumber rest →
        lexemeAt .whole place first (more.map some ++ rest) =
          (lexeme, more.length)) :
    Spells (first :: more) lexeme := by
  intro place rest ends
  have dropped : (more.map some ++ rest).drop more.length = rest := by simp
  refine ⟨⟨lexeme, place.afterByte (some first)⟩,
    place.afterAll
      (some first :: (more.map some ++ rest).take more.length), rfl, ?_⟩
  rw [List.map_cons, List.cons_append, tokensFrom]
  simp only [noGap, Bool.false_eq_true, if_false,
    found place rest ends, dropped]

theorem spells_openBracket : Spells ['['] .openBracket :=
  spells_of_lexemeAt rfl fun _ _ _ => rfl

theorem spells_closeBracket : Spells [']'] .closeBracket :=
  spells_of_lexemeAt rfl fun _ _ _ => rfl

theorem spells_openBrace : Spells ['\x7b'] .openBrace :=
  spells_of_lexemeAt rfl fun _ _ _ => rfl

theorem spells_closeBrace : Spells ['\x7d'] .closeBrace :=
  spells_of_lexemeAt rfl fun _ _ _ => rfl

theorem spells_comma : Spells [','] .comma :=
  spells_of_lexemeAt rfl fun _ _ _ => rfl

theorem spells_colon : Spells [':'] .colon :=
  spells_of_lexemeAt rfl fun _ _ _ => rfl

theorem spells_null : Spells "null".toList (.scalar .null) :=
  spells_of_lexemeAt rfl fun _ _ _ => rfl

/-- A truth value is spelled by its word. -/
theorem spells_bool (value : Bool) :
    Spells (if value then "true" else "false").toList
      (.scalar (.bool value)) := by
  cases value
  · exact spells_of_lexemeAt rfl fun _ _ _ => rfl
  · exact spells_of_lexemeAt rfl fun _ _ _ => rfl

/-- A quoted text is spelled by its escaped characters. -/
theorem spells_quote (text : String) :
    Spells (quote text).toList (.text text) := by
  rw [quote, String.toList_ofList]
  refine spells_of_lexemeAt rfl fun place rest _ => ?_
  simp only [lexemeAt, List.map_append, List.append_assoc, List.map_cons,
    List.map_nil, List.singleton_append, readText_quoted, List.length_append,
    List.length_singleton]
  rfl

/-- A sign or a digit begins a number. -/
theorem lexemeAt_number
    {medium : Medium}
    {place : Place}
    {first : Char}
    {rest : List Text.Symbol}
    (starts : first = '-' ∨ first.isDigit = true) :
    lexemeAt medium place first rest =
      match readNumber medium place (some first :: rest) with
      | .ok (value, length) => (.scalar value, length - 1)
      | .error fault => (.brokenScalar fault, 0) := by
  have other (character : Char) (noSign : character ≠ '-')
      (noDigit : character.isDigit = false) : first ≠ character := by
    rintro rfl
    rcases starts with sign | digit
    · exact noSign sign
    · exact absurd (noDigit.symm.trans digit) (by decide)
  have number : (decide (first = '-') || first.isDigit) = true := by
    simpa using starts
  unfold lexemeAt
  cases readNumber medium place (some first :: rest) <;>
    simp only [if_neg (other '[' (by decide) (by decide)),
      if_neg (other ']' (by decide) (by decide)),
      if_neg (other '\x7b' (by decide) (by decide)),
      if_neg (other '\x7d' (by decide) (by decide)),
      if_neg (other ',' (by decide) (by decide)),
      if_neg (other ':' (by decide) (by decide)),
      if_neg (other '"' (by decide) (by decide)),
      if_neg (other 'n' (by decide) (by decide)),
      if_neg (other 't' (by decide) (by decide)),
      if_neg (other 'f' (by decide) (by decide)), number, if_true]

/-- No number begins with a gap. -/
theorem isGap_eq_false_of_starts
    {first : Char}
    (starts : first = '-' ∨ first.isDigit = true) :
    isGap first = false := by
  rcases starts with rfl | digit
  · rfl
  · simp only [isGap, Bool.or_eq_false_iff, beq_eq_false_iff_ne, ne_eq]
    refine ⟨⟨⟨?_, ?_⟩, ?_⟩, ?_⟩ <;>
    · rintro rfl
      exact absurd digit (by decide)

/-- A text that is read as a number to its end is the lexeme of the number. -/
theorem spells_number
    {first : Char}
    {more : List Char}
    {value : Json}
    {length : Nat}
    {place : Place}
    (starts : first = '-' ∨ first.isDigit = true)
    (read :
      readNumber .whole place ((first :: more).map some) = .ok (value, length))
    (whole : length - 1 = more.length) :
    Spells (first :: more) (.scalar value) := by
  refine spells_of_lexemeAt (isGap_eq_false_of_starts starts)
    fun other rest ends => ?_
  have extended := readNumber_extend ends read other
  rw [List.map_cons, List.cons_append] at extended
  rw [lexemeAt_number starts, extended]
  simp only [whole]

/-- An exact integer is spelled by its digits. -/
theorem spells_integer
    {value : Int}
    (exact : IsExact value) :
    Spells (toString value).toList (.scalar (.integer value)) := by
  have read := readNumber_integer .whole Place.start exact
  rw [← String.length_toList] at read
  have starts : ∃ first more, (toString value).toList = first :: more ∧
      (first = '-' ∨ first.isDigit = true) := by
    rw [Decimal.toList_toString]
    split_ifs
    · exact ⟨_, _, rfl, .inl rfl⟩
    · obtain ⟨first, rest, form⟩ :=
        List.exists_cons_of_ne_nil
          (Nat.toDigits_ne_nil (n := value.natAbs) (b := 10))
      have member : first ∈ Nat.toDigits 10 value.natAbs := by simp [form]
      exact ⟨first, rest, form,
        .inr (Nat.isDigit_of_mem_toDigits (by decide) (by decide) member)⟩
  obtain ⟨first, more, form, starts⟩ := starts
  rw [form] at read ⊢
  exact spells_number starts read rfl

end Eisen.Json
