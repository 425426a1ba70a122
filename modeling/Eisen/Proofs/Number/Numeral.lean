import Eisen.Proofs.Number.Shortest
import Eisen.Proofs.Text.Words
import Eisen.RuleSet.Decoding
import Eisen.RuleSet.Encoding

namespace Eisen

/-!
# Numerals through JSON

Writing a numeral as JSON and reading it again may change its spelling. It keeps
the number, with one exception: minus zero written as an integer loses its sign.
-/

namespace Decimal

/-- A decimal is rounded to a canonical number. -/
theorem isCanonical_of_toBinary64
    {negative : Bool}
    {decimal : Decimal}
    {number : Binary64}
    (read : decimal.toBinary64 negative = some number) :
    number.IsCanonical := by
  simp only [toBinary64] at read
  split_ifs at read
  · cases read
    exact Binary64.isCanonical_zero negative
  · cases read
    exact Binary64.isCanonical_zero negative
  · exact Binary64.isCanonical_of_ofRatio
      (by simp only [Nat.pow_eq]; positivity) read

/-- Integers of nineteen digits are finite numbers. -/
theorem toBinary64_isSome
    (negative : Bool)
    {number : Nat}
    (bounded : number < 10 ^ 19) :
    ((⟨number, 0⟩ : Decimal).toBinary64 negative).isSome := by
  have count : digitCount number ≤ 19 :=
    (Nat.length_toDigits_le_iff (by decide) (by decide)).2 bounded
  have countPos := digitCount_pos number
  simp only [toBinary64]
  rw [if_neg (show ¬ 310 < (digitCount number : Int) + 0 by omega),
    if_neg (show ¬ (digitCount number : Int) + 0 < -330 by omega)]
  split_ifs
  · rfl
  · apply Binary64.ofRatio_isSome
    · simp
    · have small : (number : ℚ) < 10 ^ 19 := by exact_mod_cast bounded
      have large : (2 : ℚ) ^ (64 : Int) ≤ 2 ^ (1023 : Int) :=
        zpow_le_zpow_right₀ one_le_two (by decide)
      norm_num at large
      simpa using small.trans (lt_of_lt_of_le (by norm_num) large)

/-- Digits that write zero are all zero. -/
theorem ofDigits_eq_zero_iff
    {digits : List Char}
    (areDigits : ∀ symbol ∈ digits, symbol.isDigit = true) :
    ofDigits digits = 0 ↔ digits.all (· == '0') = true := by
  induction digits with
  | nil => simp [ofDigits]
  | cons first rest inductionHypothesis =>
    have firstDigit := areDigits first (by simp)
    have restDigits : ∀ symbol ∈ rest, symbol.isDigit = true :=
      fun symbol member => areDigits symbol (by simp [member])
    have value : ofDigits [first] = 0 ↔ first = '0' := by
      obtain ⟨lower, -⟩ := Char.isDigit_iff_toNat.1 firstDigit
      rw [Char.ext_iff, UInt32.ext_iff]
      simp only [ofDigits, List.foldl_cons, List.foldl_nil, Char.toNat] at *
      omega
    have split : ofDigits (first :: rest) =
        ofDigits [first] * 10 ^ rest.length + ofDigits rest :=
      ofDigits_append [first] rest
    rw [split, Nat.add_eq_zero_iff, Nat.mul_eq_zero,
      inductionHypothesis restDigits, value]
    simp

/-- An integer is digits behind an optional sign. -/
theorem readInt?_eq_some_iff
    (text : List Char)
    (value : Int) :
    readInt? text = some value ↔
      (splitSign text).2 ≠ [] ∧
        (∀ symbol ∈ (splitSign text).2, symbol.isDigit = true) ∧
        value =
          if (splitSign text).1 then
            -(ofDigits (splitSign text).2 : Int)
          else
            (ofDigits (splitSign text).2 : Int) := by
  simp only [readInt?, readNat?]
  by_cases written : (splitSign text).2 ≠ [] ∧
      ∀ symbol ∈ (splitSign text).2, symbol.isDigit = true
  · have accepted :
        ((splitSign text).2.isEmpty || !(splitSign text).2.all Char.isDigit) =
          false := by
      simpa using written
    rw [accepted]
    simp only [Bool.false_eq_true, if_false, Option.bind_eq_bind,
      Option.bind_some, Option.pure_def, Option.map_some, Option.some.injEq]
    exact ⟨fun same => ⟨written.1, written.2, same.symm⟩,
      fun ⟨_, _, same⟩ => same.symm⟩
  · have refused : ((splitSign text).2.isEmpty ||
        !(splitSign text).2.all Char.isDigit) = true := by
      simpa [not_and, or_iff_not_imp_left] using written
    rw [refused]
    simp only [if_true, Option.bind_eq_bind, Option.bind_none, Option.map_none,
      reduceCtorEq, false_iff]
    exact fun ⟨nonempty, digits, _⟩ => written ⟨nonempty, digits⟩

end Decimal

namespace Binary64

theorem isCanonical_of_read?
    {text : List Char}
    {number : Binary64}
    (isRead : read? text = some number) :
    number.IsCanonical := by
  simp only [read?, Option.bind_eq_some_iff] at isRead
  obtain ⟨decimal, -, rounded⟩ := isRead
  exact Decimal.isCanonical_of_toBinary64 rounded

/-- An integer as text is read as the number it stands for; its sign counts. -/
theorem read?_of_readInt?
    {text : List Char}
    {value : Int}
    (isInteger : Decimal.readInt? text = some value) :
    read? text =
      (⟨value.natAbs, 0⟩ : Decimal).toBinary64 (Decimal.splitSign text).1 := by
  obtain ⟨nonempty, digits, same⟩ :=
    (Decimal.readInt?_eq_some_iff text value).1 isInteger
  have magnitude :
      value.natAbs = Decimal.ofDigits (Decimal.splitSign text).2 := by
    split at same <;> omega
  simp only [read?]
  rw [Decimal.read?_whole nonempty digits, magnitude]
  rfl

end Binary64

namespace Numeral

/-- A numeral that has been written as JSON and read again. -/
def reread (numeral : Numeral) : Numeral :=
  match numeral.integer? with
  | some value => ⟨toString value⟩
  | none =>
      match numeral.number? with
      | some number => ⟨numberText number⟩
      | none => ofText numeral.text

/-- A minus sign with zeros behind it and nothing else. -/
def isMinusZero (numeral : Numeral) : Bool :=
  match numeral.text.toList with
  | '-' :: digits => !digits.isEmpty && digits.all (· == '0')
  | _ => false

/-- A text without blanks at its ends, and not empty. -/
structure IsTrimmed (numeral : Numeral) : Prop where
  trimmed : Text.trim numeral.text = numeral.text
  nonempty : numeral.text ≠ ""

theorem ofJson_toJson
    {numeral : Numeral}
    (trimmed : numeral.IsTrimmed) :
    ofJson numeral.toJson = .ok numeral.reread := by
  unfold toJson reread
  cases numeral.integer? with
  | some value => rfl
  | none =>
    cases numeral.number? with
    | some number => rfl
    | none => simp [ofJson, trimmed.trimmed, trimmed.nonempty]

/-! Integers. -/

/-- The text of an integer is read as the number with its sign. -/
theorem number?_toString (value : Int) :
    number? ⟨toString value⟩ =
      (⟨value.natAbs, 0⟩ : Decimal).toBinary64 (decide (value < 0)) := by
  have digits :
      ∀ symbol ∈ Nat.toDigits 10 value.natAbs, symbol.isDigit = true :=
    fun _ => Nat.isDigit_of_mem_toDigits (by decide) (by decide)
  have read := Decimal.read?_whole Nat.toDigits_ne_nil digits
  rw [Decimal.ofDigits_toDigits] at read
  simp only [number?, Binary64.read?, Decimal.toList_toString]
  split_ifs with negative
  · simp only [Decimal.splitSign, read, negative, decide_true, Option.bind_some]
  · have sign : Decimal.splitSign (Nat.toDigits 10 value.natAbs) =
        (false, Nat.toDigits 10 value.natAbs) := by
      apply Decimal.splitSign_of_isDigit
      obtain ⟨first, rest, form⟩ :=
        List.exists_cons_of_ne_nil
          (Nat.toDigits_ne_nil (n := value.natAbs) (b := 10))
      exact ⟨first, by rw [form]; rfl, digits first (by rw [form]; simp)⟩
    simp only [sign, read, negative, decide_false, Option.bind_some]

theorem numberText_zero_ne :
    numberText (.zero true) ≠ numberText (.zero false) := by
  decide

/-- Among the integers only minus zero is written so that its sign is lost. -/
theorem isMinusZero_of_integer?
    {numeral : Numeral}
    {value : Int}
    (isInteger : Decimal.readInt? numeral.text.toList = some value) :
    numeral.isMinusZero = true ↔
      value = 0 ∧ (Decimal.splitSign numeral.text.toList).1 = true := by
  obtain ⟨nonempty, digits, same⟩ :=
    (Decimal.readInt?_eq_some_iff _ value).1 isInteger
  have zero := Decimal.ofDigits_eq_zero_iff digits
  have isZero : value = 0 ↔
      (Decimal.splitSign numeral.text.toList).2.all (· == '0') = true := by
    rw [← zero]
    split at same <;> omega
  rw [isZero]
  unfold isMinusZero
  revert nonempty
  generalize numeral.text.toList = text
  unfold Decimal.splitSign
  split
  next rest =>
    intro nonempty
    simp [nonempty]
  next rest => simp
  next rest notMinus notPlus =>
    intro nonempty
    split
    next digits => exact absurd rfl (notMinus digits)
    next => simp

theorem integer?_of_isMinusZero
    {numeral : Numeral}
    (minusZero : numeral.isMinusZero = true) :
    numeral.integer? = some 0 := by
  unfold isMinusZero at minusZero
  split at minusZero
  next digits form =>
    obtain ⟨nonempty, zeros⟩ : digits ≠ [] ∧ digits.all (· == '0') = true := by
      simpa using minusZero
    have areDigits : ∀ symbol ∈ digits, symbol.isDigit = true := by
      intro symbol member
      rw [beq_iff_eq.1 (List.all_eq_true.1 zeros symbol member)]
      decide
    have read : Decimal.readInt? numeral.text.toList = some 0 := by
      rw [Decimal.readInt?_eq_some_iff, form]
      refine ⟨nonempty, areDigits, ?_⟩
      simp only [Decimal.splitSign,
        (Decimal.ofDigits_eq_zero_iff areDigits).2 zeros]
      rfl
    rw [integer?, read]
    rfl
  next => cases minusZero

/--
The text of an integer has the canonical text of every other
spelling but minus zero.
-/
theorem canonical_toString_eq_iff
    {numeral : Numeral}
    {value : Int}
    (isInteger : numeral.integer? = some value) :
    canonical ⟨toString value⟩ = numeral.canonical ↔
      numeral.isMinusZero = false := by
  obtain ⟨read, inRange⟩ := Option.filter_eq_some_iff.1 isInteger
  have bounded : value.natAbs < 10 ^ 19 := by
    simp only [Bool.and_eq_true, decide_eq_true_eq] at inRange
    simp only [leastInteger, greatestInteger] at inRange
    omega
  have number : numeral.number? = _ := Binary64.read?_of_readInt? read
  obtain ⟨-, -, same⟩ := (Decimal.readInt?_eq_some_iff _ value).1 read
  rw [← Bool.not_eq_true, isMinusZero_of_integer? read]
  simp only [canonical, number?_toString, number]
  by_cases isZero : value = 0
  · subst isZero
    have zero (negative : Bool) :
        (⟨Int.natAbs 0, 0⟩ :
          Decimal).toBinary64 negative = some (.zero negative) := rfl
    simp only [zero]
    cases (Decimal.splitSign numeral.text.toList).1 with
    | true => simpa using numberText_zero_ne.symm
    | false => simp
  · have sign :
        (Decimal.splitSign numeral.text.toList).1 = decide (value < 0) := by
      rw [Bool.eq_iff_iff, decide_eq_true_iff]
      split at same <;> simp_all
      omega
    obtain ⟨found, isFound⟩ := Option.isSome_iff_exists.1
      (Decimal.toBinary64_isSome (decide (value < 0)) bounded)
    simp [sign, isFound, isZero]

/-- Reading a numeral again keeps its canonical text unless it is minus zero. -/
theorem canonical_reread_eq_iff
    {numeral : Numeral}
    (trimmed : numeral.IsTrimmed) :
    numeral.reread.canonical = numeral.canonical ↔
      numeral.isMinusZero = false := by
  cases isInteger : numeral.integer? with
  | some value =>
    have again : numeral.reread = ⟨toString value⟩ := by
      simp only [reread, isInteger]
    rw [again, canonical_toString_eq_iff isInteger]
  | none =>
    have notMinusZero : numeral.isMinusZero = false := by
      by_contra minusZero
      rw [Bool.not_eq_false] at minusZero
      cases isInteger.symm.trans (integer?_of_isMinusZero minusZero)
    cases isNumber : numeral.number? with
    | some number =>
      have again : numeral.reread = ⟨numberText number⟩ := by
        simp only [reread, isInteger, isNumber]
      have readBack : number? ⟨numberText number⟩ = some number :=
        Binary64.read?_numberText (Binary64.isCanonical_of_read? isNumber)
      simp only [again, canonical, readBack, isNumber, notMinusZero]
    | none =>
      have again : numeral.reread = numeral := by
        simp only [reread, isInteger, isNumber, ofText, trimmed.trimmed]
      simp only [again, notMinusZero]

/-! Texts. -/

/-- The numeral of a text that is not blank is trimmed. -/
theorem isTrimmed_ofText
    {text : String}
    (inked : ∃ character ∈ text.toList, Text.isBlank character = false) :
    (ofText text).IsTrimmed where
  trimmed := Text.trim_trim text
  nonempty := by
    intro isEmpty
    obtain ⟨character, member, ink⟩ := inked
    have blank :=
      (Text.trim_isEmpty_iff text).mp (String.isEmpty_iff.mpr isEmpty)
    rw [blank character member] at ink
    cases ink

/-- A minus zero is a sign in front of nothing but zeros. -/
theorem isMinusZero_eq_true_iff (numeral : Numeral) :
    numeral.isMinusZero = true ↔
      ∃ count, 0 < count ∧
        numeral.text.toList = '-' :: List.replicate count '0' := by
  unfold isMinusZero
  split
  next digits form =>
    simp only [form, Bool.and_eq_true, Bool.not_eq_true',
      List.isEmpty_eq_false_iff, List.all_eq_true, beq_iff_eq,
      List.cons.injEq, true_and]
    constructor
    · rintro ⟨nonempty, zeros⟩
      exact ⟨digits.length, List.length_pos_iff.mpr nonempty,
        List.eq_replicate_iff.mpr ⟨rfl, zeros⟩⟩
    · rintro ⟨count, positive, rfl⟩
      exact ⟨by
        simpa using positive.ne', fun symbol => List.eq_of_mem_replicate⟩
  next notMinus =>
    simp only [Bool.false_eq_true, false_iff]
    rintro ⟨count, -, form⟩
    exact notMinus _ form

/--
A numeral is read again from its JSON value unless its text is blank. It
agrees with the numeral that was written unless that is a minus sign with
zeros and nothing else.
-/
theorem read_from_json_agrees_iff_not_minus_zero
    (text : String)
    (inked : ∃ character ∈ text.toList, Text.isBlank character = false) :
    ∃ reread, ofJson (ofText text).toJson = .ok reread ∧
      (reread.agrees (ofText text) = true ↔
        ¬∃ count, 0 < count ∧
          (Text.trim text).toList = '-' :: List.replicate count '0') := by
  have trimmed := isTrimmed_ofText inked
  refine ⟨(ofText text).reread, ofJson_toJson trimmed, ?_⟩
  have minusZero := isMinusZero_eq_true_iff (ofText text)
  rw [agrees, beq_iff_eq, canonical_reread_eq_iff trimmed,
    ← Bool.not_eq_true, minusZero]
  rfl

/--
An integer that is no binary64 number keeps its value, and minus
zero loses its sign.
-/
theorem read_from_json_of_long_integer_and_minus_zero :
    (∃ reread, ofJson (ofText "\t+09007199254740993 ").toJson = .ok reread ∧
        reread.agrees (ofText "\t+09007199254740993 ") = true) ∧
      ∃ reread, ofJson (ofText " -00").toJson = .ok reread ∧
        reread.agrees (ofText " -00") = false := by
  constructor
  · obtain ⟨reread, isRead, kept⟩ := read_from_json_agrees_iff_not_minus_zero
      "\t+09007199254740993 " ⟨'9', by decide, by decide⟩
    refine ⟨reread, isRead, kept.mpr ?_⟩
    rintro ⟨count, -, form⟩
    have trimmed :
        (Text.trim "\t+09007199254740993 ").toList.head? = some '+' := by decide
    rw [form] at trimmed
    cases trimmed
  · obtain ⟨reread, isRead, kept⟩ := read_from_json_agrees_iff_not_minus_zero
      " -00" ⟨'-', by decide, by decide⟩
    refine ⟨reread, isRead,
      Bool.eq_false_iff.mpr fun agrees => kept.mp agrees ?_⟩
    exact ⟨2, by decide, by decide⟩

end Numeral

end Eisen
