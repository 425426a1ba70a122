import Eisen.Proofs.Script.Spelling

namespace Eisen.Script

/-!
# Lexemes in a row

The texts of some lexemes, with single blanks between them, are scanned as these
lexemes again. A blank ends every word and every number, so the only thing that
could get lost is a rendering directive, which drops the rest of its line.
-/

/-- How a lexeme is written. -/
def Lexeme.text : Lexeme → String
  | .word text => text
  | .number text => text
  | .openBrace => "\x7b"
  | .closeBrace => "\x7d"
  | .star => "*"
  | .greater => ">"

/-- Some lexemes with single blanks between them. -/
def rowText (lexemes : List Lexeme) : String :=
  " ".intercalate (lexemes.map Lexeme.text)

/-- A word as scanning cuts it out of a source, unless it is a colour value. -/
def IsWordText (text : String) : Prop :=
  ∃ first more, text.toList = first :: more ∧ first.isAlpha = true ∧
    ∀ character ∈ more, Text.isWordCharacter character = true

theorem IsName.isWordText
    {name : String}
    (isName : IsName name) :
    IsWordText name := by
  obtain ⟨first, rest, form, letter, others⟩ := isName
  refine ⟨first, rest, form, letter, fun character member => ?_⟩
  rw [Text.isWordCharacter, Bool.or_eq_true]
  exact .inl (others character member)

/-- A lexeme that is scanned as a whole where a blank or nothing follows it. -/
def Lexeme.IsWhole : Lexeme → Prop
  | .word text => IsWordText text
  | .number text => IsNumberText text
  | _ => True

/-- A lexeme with which a directive may start. -/
def Lexeme.IsSet : Lexeme → Prop
  | .word text => Text.lower text = "set"
  | _ => False

/-- A whole lexeme with which no directive can start. -/
structure Lexeme.IsPlain (lexeme : Lexeme) : Prop where
  whole : lexeme.IsWhole
  noSet : ¬ lexeme.IsSet

/-- Whole lexemes, none of which starts a rendering directive. -/
def IsScannable : List Lexeme → Prop
  | [] => True
  | lexeme :: rest =>
      lexeme.IsWhole ∧
        (lexeme.IsSet →
          renderingKeyAhead (' ' :: (rowText rest).toList) = false) ∧
        IsScannable rest

theorem isScannable_of_forall
    {lexemes : List Lexeme}
    (plain : ∀ lexeme ∈ lexemes, lexeme.IsPlain) :
    IsScannable lexemes := by
  induction lexemes with
  | nil => trivial
  | cons lexeme rest inductionHypothesis =>
      obtain ⟨first, others⟩ := List.forall_mem_cons.mp plain
      exact ⟨first.whole, fun isSet => absurd isSet first.noSet,
        inductionHypothesis others⟩

/-! Pieces. -/

/-- Nothing, or a blank in front of something. -/
def IsApart (behind : List Char) : Prop :=
  ∀ next ∈ behind.head?, next = ' '

/-- A run ends in front of what stands apart. -/
theorem takeWhile_append_of_isApart
    {accepts : Char → Bool}
    {more behind : List Char}
    (accepted : ∀ character ∈ more, accepts character = true)
    (refused : accepts ' ' = false)
    (apart : IsApart behind) :
    (more ++ behind).takeWhile accepts = more := by
  rw [List.takeWhile_append_of_pos accepted]
  cases behind with
  | nil => simp
  | cons next rest =>
      rw [apart next rfl, List.takeWhile_cons_of_neg (by simp [refused]),
        List.append_nil]

/-- The run of a number ends in front of what stands apart. -/
theorem numberRun_append_of_isApart
    {text behind : List Char}
    (run : numberRun text = text)
    (apart : IsApart behind) :
    numberRun (text ++ behind) = text := by
  induction text with
  | nil =>
      cases behind with
      | nil => rfl
      | cons next rest =>
          rw [apart next rfl]
          rfl
  | cons character rest inductionHypothesis =>
      rw [numberRun] at run
      split at run
      · next belongs =>
          have still : (isNumberCharacter character ||
              (character == '*' && startsOperand (rest ++ behind))) = true := by
            simp only [Bool.or_eq_true, Bool.and_eq_true] at belongs ⊢
            refine belongs.imp_right (And.imp_right fun operand => ?_)
            cases rest with
            | nil => cases operand
            | cons next others => exact operand
          rw [List.cons_append, numberRun, if_pos still,
            inductionHypothesis (List.cons.inj run).2]
      · cases run

/--
A character that is neither a blank nor a lexeme by itself starts a
number or a word.
-/
theorem piece_of_ordinary
    {first : Char}
    (blank : Text.isBlank first = false)
    (sign : first ∉ ['/', '\x7b', '\x7d', '>', '*', '#'])
    (cursor : Cursor)
    (rest : List Char) :
    piece cursor first rest =
      if startsNumber first then
        .ok (Piece.ofLexeme
          (.number (String.ofList (numberRun (first :: rest))))
          ((numberRun (first :: rest)).length - 1))
      else if first.isAlpha then
        .ok (wordPiece first rest)
      else
        .error (.unexpectedCharacter cursor.place first) := by
  simp only [List.mem_cons, List.not_mem_nil, or_false, not_or] at sign
  obtain ⟨slash, opening, closing, greater, star, hash⟩ := sign
  simp [piece, blank, slash, opening, closing, greater, star, hash]

/-- A sign that starts a number is taken with its run. -/
theorem piece_of_startsNumber
    {first : Char}
    (starts : startsNumber first = true)
    (cursor : Cursor)
    (rest : List Char) :
    piece cursor first rest =
      .ok (Piece.ofLexeme (.number (String.ofList (numberRun (first :: rest))))
        ((numberRun (first :: rest)).length - 1)) := by
  have ordinary : first ∉ ['/', '\x7b', '\x7d', '>', '*', '#'] := by
    intro member
    have checked : ['/', '\x7b', '\x7d', '>', '*', '#'].all (!startsNumber ·) =
        true := by decide
    simpa [starts] using List.all_eq_true.mp checked first member
  have numeric : isNumeric first = true := by
    simp [isNumeric, isNumberCharacter_of_startsNumber starts]
  rw [piece_of_ordinary (not_isBlank_of_isNumeric numeric) ordinary,
    if_pos starts]

/-- A letter is taken with its word. -/
theorem piece_of_isAlpha
    {first : Char}
    (letter : first.isAlpha = true)
    (cursor : Cursor)
    (rest : List Char) :
    piece cursor first rest = .ok (wordPiece first rest) := by
  have letters : ∀ code < 123, (Char.ofNat code).isAlpha = true →
      Text.isBlank (Char.ofNat code) = false ∧
        startsNumber (Char.ofNat code) = false ∧
        ['/', '\x7b', '\x7d', '>', '*', '#'].contains
          (Char.ofNat code) = false := by
    decide +kernel
  have small : first.toNat < 123 := by
    rcases isAlpha_iff first |>.mp letter with upper | lower <;> omega
  have checked := letters first.toNat small
  rw [Char.ofNat_toNat] at checked
  obtain ⟨blank, number, sign⟩ := checked letter
  rw [piece_of_ordinary blank (by simpa using sign), number, letter]
  rfl

/-- A lexeme at the front of a text is cut off as it is written. -/
structure IsCutOff
    (lexeme : Lexeme)
    (first : Char)
    (more behind : List Char) : Prop where
  text : lexeme.text.toList = first :: more
  noBlank : ∀ character ∈ first :: more, Text.isBlank character = false
  piece : ∀ cursor, piece cursor first (more ++ behind) =
    .ok (Piece.ofLexeme lexeme more.length)

/-- Word characters are no blanks. -/
theorem not_isBlank_of_isWordCharacter
    {character : Char}
    (word : Text.isWordCharacter character = true) :
    Text.isBlank character = false := by
  have codes : ∀ code < 123, Text.isWordCharacter (Char.ofNat code) = true →
      Text.isBlank (Char.ofNat code) = false := by
    decide +kernel
  have small : character.toNat < 123 := by
    simp only [Text.isWordCharacter, Char.isAlphanum, Bool.or_eq_true,
      beq_iff_eq, isAlpha_iff, Char.isDigit_iff_toNat, ← Char.toNat_inj,
      Char.reduceToNat] at word
    omega
  have checked := codes character.toNat small
  rw [Char.ofNat_toNat] at checked
  exact checked word

/-- A number is cut off from what stands apart. -/
theorem exists_isCutOff_number
    {text : String}
    (isNumber : IsNumberText text)
    {behind : List Char}
    (apart : IsApart behind) :
    ∃ first more, IsCutOff (.number text) first more behind := by
  obtain ⟨first, isFirst, starts⟩ := isNumber.starts
  obtain ⟨more, form⟩ := List.head?_eq_some_iff.mp isFirst
  refine ⟨first, more, form, ?_, fun cursor => ?_⟩
  · intro character member
    exact not_isBlank_of_isNumeric (isNumber.numeric character (form ▸ member))
  · have run : numberRun (first :: (more ++ behind)) = first :: more := by
      rw [← List.cons_append, ← form]
      exact numberRun_append_of_isApart isNumber.run apart
    rw [piece_of_startsNumber starts, run, ← form, String.ofList_toList, form]
    rfl

/--
A word is cut off from what stands apart, unless it begins a rendering
directive.
-/
theorem exists_isCutOff_word
    {text : String}
    (isWord : IsWordText text)
    {behind : List Char}
    (apart : IsApart behind)
    (kept : Text.lower text = "set" → renderingKeyAhead behind = false) :
    ∃ first more, IsCutOff (.word text) first more behind := by
  obtain ⟨first, more, form, letter, word⟩ := isWord
  have blanks :
      ∀ character ∈ first :: more, Text.isBlank character = false := by
    rw [List.forall_mem_cons]
    refine ⟨not_isBlank_of_isWordCharacter ?_, fun character member =>
      not_isBlank_of_isWordCharacter (word character member)⟩
    simp [Text.isWordCharacter, Char.isAlphanum, letter]
  refine ⟨first, more, form, blanks, fun cursor => ?_⟩
  have taken : (more ++ behind).takeWhile Text.isWordCharacter = more :=
    takeWhile_append_of_isApart word (by decide) apart
  have whole : String.ofList (first :: more) = text := by
    rw [← form, String.ofList_toList]
  have noDirective :
      (Text.lower text == "set" && renderingKeyAhead behind) = false := by
    cases isSet : Text.lower text == "set" with
    | false => rfl
    | true => exact kept (beq_iff_eq.mp isSet)
  rw [piece_of_isAlpha letter]
  simp only [wordPiece, taken, whole, List.drop_left, noDirective,
    Bool.false_eq_true, if_false]

/--
A whole lexeme is cut off from what stands apart, unless it begins a rendering
directive.
-/
theorem exists_isCutOff
    {lexeme : Lexeme}
    (whole : lexeme.IsWhole)
    {behind : List Char}
    (apart : IsApart behind)
    (kept : lexeme.IsSet → renderingKeyAhead behind = false) :
    ∃ first more, IsCutOff lexeme first more behind := by
  cases lexeme with
  | word text => exact exists_isCutOff_word whole apart kept
  | number text => exact exists_isCutOff_number whole apart
  | openBrace =>
      exact ⟨'\x7b', [], rfl, List.forall_mem_singleton.mpr rfl, fun _ => rfl⟩
  | closeBrace =>
      exact ⟨'\x7d', [], rfl, List.forall_mem_singleton.mpr rfl, fun _ => rfl⟩
  | star =>
      exact ⟨'*', [], rfl, List.forall_mem_singleton.mpr rfl, fun _ => rfl⟩
  | greater =>
      exact ⟨'>', [], rfl, List.forall_mem_singleton.mpr rfl, fun _ => rfl⟩

/-! Scanning. -/

/-- Tokens that are the given lexemes and stand on one line. -/
structure WritesRow
    (line : Nat)
    (written : List Token)
    (lexemes : List Lexeme) : Prop where
  lexemes : written.map Token.lexeme = lexemes
  line : ∀ token ∈ written, token.place.line = line

/--
A text is scanned as some lexemes that stand on the line on which it starts.
-/
def ScansAs
    (text : List Char)
    (lexemes : List Lexeme) : Prop :=
  ∀ cursor, ∃ written,
    tokensFrom cursor text = .ok written ∧
      WritesRow cursor.place.line written lexemes

theorem Place.line_after
    {characters : List Char}
    (noFeed : '\n' ∉ characters)
    (place : Place) :
    (place.after characters).line = place.line := by
  induction characters generalizing place with
  | nil => rfl
  | cons character rest inductionHypothesis =>
      obtain ⟨noFirst, noRest⟩ := not_or.mp (List.mem_cons.not.mp noFeed)
      have same : (place.next character).line = place.line := by
        rw [Place.next, if_neg (Ne.symm noFirst)]
      rw [← same, ← inductionHypothesis noRest (place.next character)]
      rfl

namespace ScansAs

theorem nil : ScansAs [] [] :=
  fun _ => ⟨[], by rw [tokensFrom], rfl, nofun⟩

/-- A lexeme is cut off, and what is behind it is scanned by itself. -/
theorem cons
    {lexeme : Lexeme}
    {first : Char}
    {more behind : List Char}
    (cut : IsCutOff lexeme first more behind)
    {lexemes : List Lexeme}
    (scans : ScansAs behind lexemes) :
    ScansAs (lexeme.text.toList ++ behind) (lexeme :: lexemes) := by
  intro cursor
  have noFeed : '\n' ∉ first :: more := fun member =>
    absurd (cut.noBlank '\n' member) (by decide)
  obtain ⟨written, scanned, row⟩ :=
    scans (cursor.after (Piece.ofLexeme lexeme more.length) (first :: more))
  have sameLine := Place.line_after noFeed cursor.place
  refine ⟨⟨lexeme, cursor.place⟩ :: written, ?_, ?_, ?_⟩
  · rw [cut.text, List.cons_append, tokensFrom, cut.piece]
    simp only [Piece.ofLexeme, List.take_left, List.drop_left]
    rw [Piece.ofLexeme] at scanned
    simp only [scanned]
  · rw [List.map_cons, row.lexemes]
  · rw [List.forall_mem_cons]
    exact ⟨rfl, fun token member => (row.line token member).trans sameLine⟩

/-- A single blank in front of a text leaves no trace. -/
theorem blank
    {text : List Char}
    (noBlank : ∀ first ∈ text.head?, Text.isBlank first = false)
    {lexemes : List Lexeme}
    (scans : ScansAs text lexemes) :
    ScansAs (' ' :: text) lexemes := by
  intro cursor
  have taken : text.takeWhile Text.isBlank = [] := by
    cases text with
    | nil => rfl
    | cons first rest =>
        rw [List.takeWhile_cons_of_neg (by simp [noBlank first rfl])]
  have gap : piece cursor ' ' text = .ok (Piece.gap 0) := by
    have isBlank : Text.isBlank ' ' = true := by decide
    rw [piece, if_pos isBlank, taken]
    rfl
  obtain ⟨written, scanned, row⟩ := scans (cursor.after (Piece.gap 0) [' '])
  refine ⟨written, ?_, row.lexemes,
    fun token member => (row.line token member).trans ?_⟩
  · rw [tokensFrom, gap]
    simp only [Piece.gap, List.take_zero, List.drop_zero]
    rw [Piece.gap] at scanned
    simp only [scanned]
  · exact Place.line_after (by decide) cursor.place

end ScansAs

/-- In a row a lexeme is followed by a blank, unless it is the last one. -/
theorem toList_rowText_cons
    (lexeme : Lexeme)
    (rest : List Lexeme) :
    (rowText (lexeme :: rest)).toList =
      lexeme.text.toList ++
        if rest = [] then [] else ' ' :: (rowText rest).toList := by
  cases rest with
  | nil => simp [rowText]
  | cons next others => simp [rowText, String.toList_intercalate]

/-- A row does not begin with a blank. -/
theorem head?_rowText
    {lexemes : List Lexeme}
    (scannable : IsScannable lexemes) :
    ∀ first ∈ (rowText lexemes).toList.head?, Text.isBlank first = false := by
  cases lexemes with
  | nil => exact nofun
  | cons lexeme rest =>
      have alone : IsApart [] := nofun
      obtain ⟨first, more, cut⟩ :=
        exists_isCutOff scannable.1 alone fun _ => rfl
      intro character isFirst
      rw [toList_rowText_cons, cut.text, List.cons_append, List.head?_cons,
        Option.mem_some_iff]
        at isFirst
      exact cut.noBlank character (isFirst ▸ List.mem_cons_self)

/-- Lexemes in a row are scanned one by one. -/
theorem scansAs_rowText
    {lexemes : List Lexeme}
    (scannable : IsScannable lexemes) :
    ScansAs (rowText lexemes).toList lexemes := by
  induction lexemes with
  | nil => exact ScansAs.nil
  | cons lexeme rest inductionHypothesis =>
      obtain ⟨whole, kept, others⟩ := scannable
      rw [toList_rowText_cons]
      by_cases last : rest = []
      · subst last
        have alone : IsApart [] := nofun
        obtain ⟨first, more, cut⟩ := exists_isCutOff whole alone fun _ => rfl
        exact ScansAs.nil.cons cut
      · rw [if_neg last]
        have apart : IsApart (' ' :: (rowText rest).toList) := by
          intro next isNext
          exact (Option.mem_some_iff.mp isNext).symm
        obtain ⟨first, more, cut⟩ := exists_isCutOff whole apart kept
        exact ((inductionHypothesis others).blank (head?_rowText others)).cons
          cut

end Eisen.Script
