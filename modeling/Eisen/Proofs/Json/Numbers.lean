import Eisen.Json.Number
import Eisen.Proofs.Number.Shortest

namespace Eisen.Json

/-!
# Numbers in JSON text

A number that is read from a text is read in the same way in front of anything
that cannot be part of a number, and at every place. The text of an integer of
64 bits is read as the integer.
-/

/-- Nothing stands in front that could be part of a number. -/
def EndsNumber : List Text.Symbol → Prop
  | some character :: _ =>
      character.isDigit = false ∧ character ≠ '.' ∧ character ≠ 'e' ∧
        character ≠ 'E'
  | _ => True

/-- A run of digits ends where a number ends. -/
theorem digitRun_append
    (symbols : List Text.Symbol)
    {rest : List Text.Symbol}
    (ends : EndsNumber rest) :
    digitRun (symbols ++ rest) = digitRun symbols := by
  induction symbols with
  | nil =>
    match rest, ends with
    | [], _ => rfl
    | none :: _, _ => rfl
    | some character :: _, ends => simp [digitRun, ends.1]
  | cons symbol more inductionHypothesis =>
    cases symbol with
    | none => rfl
    | some character => simp [digitRun, inductionHypothesis]

theorem length_digitRun_le (symbols : List Text.Symbol) :
    (digitRun symbols).length ≤ symbols.length := by
  induction symbols with
  | nil => exact Nat.le_refl 0
  | cons symbol more inductionHypothesis =>
    cases symbol with
    | none => simp [digitRun]
    | some character =>
      simp only [digitRun]
      split_ifs
      · simpa using inductionHypothesis
      · simp

/-- Behind a run of digits stands what is left of the number. -/
theorem drop_digitRun_append (symbols rest : List Text.Symbol) :
    (symbols ++ rest).drop (digitRun symbols).length =
      symbols.drop (digitRun symbols).length ++ rest :=
  List.drop_append_of_le_length (length_digitRun_le symbols)

/--
A character inside numbers that stands in front of an end stands in
front of it all.
-/
theorem exists_cons_of_append_eq
    {symbols rest more : List Text.Symbol}
    {character : Char}
    (ends : EndsNumber rest)
    (inside : character = '.' ∨ character = 'e' ∨ character = 'E')
    (same : symbols ++ rest = some character :: more) :
    ∃ others, symbols = some character :: others := by
  cases symbols with
  | nil =>
    rw [List.nil_append] at same
    subst same
    obtain ⟨-, noPoint, notSmall, notLarge⟩ := ends
    rcases inside with isPoint | isSmall | isLarge
    · exact absurd isPoint noPoint
    · exact absurd isSmall notSmall
    · exact absurd isLarge notLarge
  | cons symbol others =>
    cases same
    exact ⟨others, rfl⟩

/-!
A number that is read stays the same in front of other symbols and
at another place.
-/

section Extension

variable
    {medium : Medium}
    {negative : Bool}
    {gathered : Gathered}
    {scanned moved : Scanned}
    {symbols rest : List Text.Symbol}
    {result : Json × Nat}

/-- The end of a real number does not depend on what follows. -/
theorem finishReal_extend
    (sameLength : moved.length = scanned.length)
    (read : finishReal medium negative gathered scanned symbols = .ok result)
    (others : List Text.Symbol) :
    finishReal medium negative gathered moved others = .ok result := by
  unfold finishReal at *
  split at read
  next value isValue => rw [← read, sameLength]
  next => cases read

/-- An exponent is read in the same way in front of what ends a number. -/
theorem readExponent_extend
    (ends : EndsNumber rest)
    (sameLength : moved.length = scanned.length)
    (read :
      readExponent medium negative gathered scanned symbols = .ok result) :
    readExponent medium negative gathered moved (symbols ++ rest) =
      .ok result := by
  cases symbols with
  | nil => simp [readExponent, digitRun] at read
  | cons symbol more =>
    have sign (wanted : Char) :
        [some wanted].isPrefixOf (symbol :: more ++ rest) =
          [some wanted].isPrefixOf (symbol :: more) := rfl
    have dropped (signed : Bool) :
        (if signed then
            (symbol :: more ++ rest).drop 1
          else
            symbol :: more ++ rest) =
          (if signed then (symbol :: more).drop 1 else symbol :: more) ++
            rest := by
      cases signed <;> simp
    simp only [readExponent, sign, dropped] at read ⊢
    generalize ([some '+'].isPrefixOf (symbol :: more) ||
      [some '-'].isPrefixOf (symbol :: more)) = signed at read ⊢
    generalize [some '-'].isPrefixOf (symbol :: more) = below at read ⊢
    generalize (if signed then (symbol :: more).drop 1 else symbol :: more) =
      behind at read ⊢
    have lengths : (if signed then moved.pass 1 else moved).length =
        (if signed then scanned.pass 1 else scanned).length := by
      cases signed <;> simp [Scanned.pass, sameLength]
    generalize (if signed then scanned.pass 1 else scanned) = passed at *
    generalize (if signed then moved.pass 1 else moved) = movedOn at *
    rw [digitRun_append behind ends, drop_digitRun_append]
    by_cases noDigits : (digitRun behind).isEmpty
    · rw [if_pos noDigits] at read
      cases read
    · rw [if_neg noDigits] at read ⊢
      cases exponent : exponentValue 0 0 (digitRun behind) with
      | ok value =>
        simp only [exponent] at read ⊢
        exact finishReal_extend (by simp [Scanned.pass, lengths]) read _
      | error count =>
        simp only [exponent] at read ⊢
        split_ifs at read ⊢ with overflows
        rw [← read, lengths]

/--
The part behind the digits of a real number is read in the same way in front of
what ends it.
-/
theorem readRealEnd_extend
    (ends : EndsNumber rest)
    (sameLength : moved.length = scanned.length)
    (read : readRealEnd medium negative gathered scanned symbols = .ok result) :
    readRealEnd medium negative gathered moved (symbols ++ rest) =
      .ok result := by
  have passed : (moved.pass 1).length = (scanned.pass 1).length := by
    simp [Scanned.pass, sameLength]
  unfold readRealEnd at read
  split at read
  next more => exact readExponent_extend ends passed read
  next more => exact readExponent_extend ends passed read
  next _ notSmall notLarge =>
    have stays : readRealEnd medium negative gathered moved (symbols ++ rest) =
        finishReal medium negative gathered moved (symbols ++ rest) := by
      unfold readRealEnd
      split
      next more same =>
        obtain ⟨others, form⟩ := exists_cons_of_append_eq ends (by decide) same
        exact (notSmall others form).elim
      next more same =>
        obtain ⟨others, form⟩ := exists_cons_of_append_eq ends (by decide) same
        exact (notLarge others form).elim
      next => rfl
    rw [stays]
    exact finishReal_extend sameLength read _

/-- A fraction is read in the same way in front of what ends a number. -/
theorem readFraction_extend
    (ends : EndsNumber rest)
    (sameLength : moved.length = scanned.length)
    (read :
      readFraction medium negative gathered scanned symbols = .ok result) :
    readFraction medium negative gathered moved (symbols ++ rest) =
      .ok result := by
  simp only [readFraction] at *
  rw [digitRun_append symbols ends, drop_digitRun_append]
  split_ifs at read ⊢
  exact readRealEnd_extend ends (by simp [Scanned.pass, sameLength]) read

/-- The end of an integer does not depend on what follows. -/
theorem finishInteger_extend
    (sameLength : moved.length = scanned.length)
    (read : finishInteger medium negative gathered scanned symbols = .ok result)
    (others : List Text.Symbol) :
    finishInteger medium negative gathered moved others = .ok result := by
  unfold finishInteger at *
  split_ifs at read ⊢
  · exact finishReal_extend sameLength read others
  · rw [← read, sameLength]
  · rw [← read, sameLength]
  · exact finishReal_extend sameLength read others

/-- A number without sign is read in the same way in front of what ends it. -/
theorem readUnsigned_extend
    (ends : EndsNumber rest)
    (sameLength : moved.length = scanned.length)
    (read : readUnsigned medium negative scanned symbols = .ok result) :
    readUnsigned medium negative moved (symbols ++ rest) = .ok result := by
  have passed (count more : Nat) :
      ((moved.pass count).pass more).length =
        ((scanned.pass count).pass more).length := by
    simp [Scanned.pass, sameLength]
  simp only [readUnsigned] at read ⊢
  rw [digitRun_append symbols ends, drop_digitRun_append]
  generalize symbols.drop (digitRun symbols).length = behind at *
  split_ifs at read ⊢
  split at read
  next more => exact readFraction_extend ends (passed _ 1) read
  next more => exact readExponent_extend ends (passed _ 1) read
  next more => exact readExponent_extend ends (passed _ 1) read
  next _ noPoint notSmall notLarge =>
    have integer := finishInteger_extend
      (passed (digitRun symbols).length 0) read (behind ++ rest)
    split
    next more same =>
      obtain ⟨others, form⟩ := exists_cons_of_append_eq ends (by decide) same
      exact (noPoint others form).elim
    next more same =>
      obtain ⟨others, form⟩ := exists_cons_of_append_eq ends (by decide) same
      exact (notSmall others form).elim
    next more same =>
      obtain ⟨others, form⟩ := exists_cons_of_append_eq ends (by decide) same
      exact (notLarge others form).elim
    next => exact integer

/-- A number is read in the same way in front of what ends it. -/
theorem readNumber_extend
    {place : Place}
    (ends : EndsNumber rest)
    (read : readNumber medium place symbols = .ok result)
    (other : Place) :
    readNumber medium other (symbols ++ rest) = .ok result := by
  unfold readNumber at read
  split at read
  next more =>
    have sameLength :
        (⟨1, ⟨other.line, other.column + 1⟩⟩ : Scanned).length =
          (⟨1, ⟨place.line, place.column + 1⟩⟩ : Scanned).length := rfl
    exact readUnsigned_extend ends sameLength read
  next _ unsigned =>
    cases symbols with
    | nil => simp [readUnsigned, digitRun] at read
    | cons symbol others =>
      have stays : readNumber medium other (symbol :: others ++ rest) =
          readUnsigned medium false ⟨0, other⟩ (symbol :: others ++ rest) := by
        unfold readNumber
        split
        next more same =>
          cases same
          exact (unsigned _ rfl).elim
        next => rfl
      have sameLength :
          (⟨0, other⟩ : Scanned).length = (⟨0, place⟩ : Scanned).length := rfl
      rw [stays]
      exact readUnsigned_extend ends sameLength read

end Extension

/-! A number takes no more symbols than there are. -/

section Length

variable
    {medium : Medium}
    {negative : Bool}
    {gathered : Gathered}
    {scanned : Scanned}
    {symbols : List Text.Symbol}
    {result : Json × Nat}

theorem finishReal_length
    (read : finishReal medium negative gathered scanned symbols = .ok result) :
    result.2 = scanned.length := by
  unfold finishReal at read
  split at read <;> cases read
  rfl

/-- An exponent takes no more than there is. -/
theorem readExponent_length
    (read :
      readExponent medium negative gathered scanned symbols = .ok result) :
    result.2 ≤ scanned.length + symbols.length := by
  simp only [readExponent] at read
  generalize ([some '+'].isPrefixOf symbols || [some '-'].isPrefixOf symbols) =
    signed at read
  have front : (if signed then scanned.pass 1 else scanned).length +
      (if signed then symbols.drop 1 else symbols).length ≤
        scanned.length + symbols.length ∨ symbols = [] := by
    cases symbols <;> cases signed <;> simp [Scanned.pass]
    omega
  rcases front with front | rfl
  · generalize (if signed then scanned.pass 1 else scanned) = passed at *
    generalize (if signed then symbols.drop 1 else symbols) = behind at *
    have digits := length_digitRun_le behind
    by_cases noDigits : (digitRun behind).isEmpty
    · rw [if_pos noDigits] at read
      cases read
    · rw [if_neg noDigits] at read
      cases exponent : exponentValue 0 0 (digitRun behind) with
      | ok value =>
        simp only [exponent] at read
        have := finishReal_length read
        simp only [Scanned.pass] at this
        omega
      | error count =>
        simp only [exponent] at read
        split_ifs at read
        cases read
        simp only
        omega
  · cases signed <;> simp [digitRun] at read

/-- The part behind the digits of a real number takes no more than there is. -/
theorem readRealEnd_length
    (read : readRealEnd medium negative gathered scanned symbols = .ok result) :
    result.2 ≤ scanned.length + symbols.length := by
  unfold readRealEnd at read
  split at read
  next more =>
    have := readExponent_length read
    simp only [Scanned.pass, List.length_cons] at *
    omega
  next more =>
    have := readExponent_length read
    simp only [Scanned.pass, List.length_cons] at *
    omega
  next =>
    have := finishReal_length read
    omega

/-- A fraction takes no more than there is. -/
theorem readFraction_length
    (read :
      readFraction medium negative gathered scanned symbols = .ok result) :
    result.2 ≤ scanned.length + symbols.length := by
  have digits := length_digitRun_le symbols
  simp only [readFraction] at read
  split_ifs at read
  have := readRealEnd_length read
  simp only [Scanned.pass, List.length_drop] at this
  omega

/-- An integer takes what has been scanned. -/
theorem finishInteger_length
    (read :
      finishInteger medium negative gathered scanned symbols = .ok result) :
    result.2 = scanned.length := by
  unfold finishInteger at read
  split_ifs at read
  · exact finishReal_length read
  · cases read
    rfl
  · cases read
    rfl
  · exact finishReal_length read

/-- A number without sign takes no more than there is. -/
theorem readUnsigned_length
    (read : readUnsigned medium negative scanned symbols = .ok result) :
    result.2 ≤ scanned.length + symbols.length := by
  have digits := length_digitRun_le symbols
  have behind : (symbols.drop (digitRun symbols).length).length =
      symbols.length - (digitRun symbols).length := List.length_drop
  simp only [readUnsigned] at read
  split_ifs at read
  split at read
  next more form =>
    have := readFraction_length read
    simp only [form, Scanned.pass, List.length_cons] at *
    omega
  next more form =>
    have := readExponent_length read
    simp only [form, Scanned.pass, List.length_cons] at *
    omega
  next more form =>
    have := readExponent_length read
    simp only [form, Scanned.pass, List.length_cons] at *
    omega
  next =>
    have := finishInteger_length read
    simp only [Scanned.pass] at this
    omega

theorem readNumber_length
    {place : Place}
    (read : readNumber medium place symbols = .ok result) :
    result.2 ≤ symbols.length := by
  unfold readNumber at read
  split at read
  next more =>
    have := readUnsigned_length read
    simp only [List.length_cons] at *
    omega
  next =>
    have := readUnsigned_length read
    simp only at this
    omega

end Length

/-! Integers. -/

theorem digitRun_digits
    {digits : List Char}
    (areDigits : ∀ digit ∈ digits, digit.isDigit = true) :
    digitRun (digits.map some) = digits := by
  induction digits with
  | nil => rfl
  | cons digit more inductionHypothesis =>
    simp only [List.map_cons, digitRun, areDigits digit (by simp), if_true]
    rw [inductionHypothesis fun other member =>
      areDigits other (by simp [member])]

/-- Digits that write a significand with room are gathered one by one. -/
theorem gatherWhole_eq
    {digits : List Char}
    {significand : Nat}
    (bounded : Nat.ofDigitChars 10 digits significand ≤ greatestSignificand) :
    gatherWhole ⟨significand, 0⟩ digits =
      ⟨Nat.ofDigitChars 10 digits significand, 0⟩ := by
  induction digits generalizing significand with
  | nil => rfl
  | cons digit more inductionHypothesis =>
    rw [Nat.ofDigitChars_cons] at bounded ⊢
    have grows : 10 * significand + digitValue digit ≤ greatestSignificand := by
      refine Nat.le_trans ?_ bounded
      rw [Nat.ofDigitChars_eq_ofDigitChars_zero]
      exact Nat.le_add_right_of_le
        (Nat.le_mul_of_pos_left _ (Nat.pow_pos (by decide)))
    simp only [gatherWhole]
    rw [if_pos (by simpa using grows)]
    exact inductionHypothesis bounded

theorem head?_toDigits_ne_zero
    {number : Nat}
    (positive : 0 < number) :
    (Nat.toDigits 10 number).head? ≠ some '0' := by
  induction number using Nat.strongRecOn with
  | ind number inductionHypothesis =>
    rw [Nat.toDigits_eq_if (by decide)]
    split_ifs with single
    · have digit : ∀ digit < 10, 0 < digit → Nat.digitChar digit ≠ '0' := by
        decide
      simpa using digit number single positive
    · obtain ⟨first, rest, form⟩ :=
        List.exists_cons_of_ne_nil (@Nat.toDigits_ne_nil (number / 10) 10)
      have := inductionHypothesis (number / 10) (by omega) (by omega)
      simpa [form] using this

/-- The digits of an integer in range are read as one, with either sign. -/
theorem readUnsigned_toDigits
    (medium : Medium)
    (negative : Bool)
    (scanned : Scanned)
    {number : Nat}
    (bounded : number ≤ greatestSignificand) :
    readUnsigned medium negative scanned ((Nat.toDigits 10 number).map some) =
      finishInteger medium negative ⟨number, 0⟩
        (scanned.pass (Nat.toDigits 10 number).length) [] := by
  have areDigits : ∀ digit ∈ Nat.toDigits 10 number, digit.isDigit = true :=
    fun _ => Nat.isDigit_of_mem_toDigits (by decide) (by decide)
  have value : Nat.ofDigitChars 10 (Nat.toDigits 10 number) 0 = number :=
    Nat.ofDigitChars_ten_toDigits
  have gathered := gatherWhole_eq (value.trans_le bounded)
  rw [value] at gathered
  have leading : ¬ ((Nat.toDigits 10 number).head? = some '0' ∧
      1 < (Nat.toDigits 10 number).length) := by
    rintro ⟨zero, long⟩
    rcases Nat.eq_zero_or_pos number with isZero | positive
    · subst isZero
      exact absurd long (by decide)
    · exact head?_toDigits_ne_zero positive zero
  simp only [readUnsigned, digitRun_digits areDigits]
  rw [if_neg (by simp [Nat.toDigits_ne_nil]), if_neg leading, gathered,
    List.drop_of_length_le (by simp)]

/-- The integers that JSON text keeps exact. -/
def IsExact (value : Int) : Prop :=
  -(greatestNegative : Int) ≤ value ∧ value ≤ greatestSignificand

/-- An exact integer is read back from its digits. -/
theorem readNumber_integer
    (medium : Medium)
    (place : Place)
    {value : Int}
    (exact : IsExact value) :
    readNumber medium place ((toString value).toList.map some) =
      .ok (.integer value, (toString value).length) := by
  obtain ⟨lower, upper⟩ := exact
  simp only [greatestNegative, greatestSignificand] at lower upper
  rw [← String.length_toList, Decimal.toList_toString]
  split_ifs with negative
  · rw [List.map_cons, readNumber,
      readUnsigned_toDigits _ _ _ (by simp only [greatestSignificand]; omega)]
    simp only [finishInteger, Scanned.pass, List.length_cons, ne_eq,
      not_true_eq_false, if_false, Bool.not_true, Bool.false_eq_true]
    rw [if_pos (by simp only [greatestNegative]; omega), Nat.add_comm 1]
    congr 3
    omega
  · have unsigned :
        readNumber medium place ((Nat.toDigits 10 value.natAbs).map some) =
        readUnsigned medium false ⟨0, place⟩
          ((Nat.toDigits 10 value.natAbs).map some) := by
      unfold readNumber
      split
      next more form =>
        have member : '-' ∈ Nat.toDigits 10 value.natAbs := by
          have : some '-' ∈ (Nat.toDigits 10 value.natAbs).map some := by
            simp [form]
          simpa using this
        exact absurd (Nat.isDigit_of_mem_toDigits (by decide)
          (by decide) member) (by decide)
      next => rfl
    rw [unsigned,
      readUnsigned_toDigits _ _ _ (by simp only [greatestSignificand]; omega)]
    simp only [finishInteger, Scanned.pass, ne_eq, not_true_eq_false, if_false,
      Bool.not_false, if_true, Nat.zero_add]
    congr 3
    omega

end Eisen.Json
