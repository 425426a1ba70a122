import Eisen.Proofs.Number.Numeral

namespace Eisen

/-!
# When numerals agree

Numerals are compared by their canonical texts. The canonical text of a
numeral that is a number is read as this number, so numerals agree by value
and never by accident of their texts. The exception is zero, of which there
are two that differ in sign.
-/

namespace Binary64

/--
The rational that a number stands for. Zero is one rational, whatever its sign.
-/
def toRat (number : Binary64) : ℚ :=
  if number.negative then
    -(number.mantissa * 2 ^ number.exponent)
  else
    number.mantissa * 2 ^ number.exponent

theorem abs_toRat (number : Binary64) :
    |number.toRat| = number.mantissa * 2 ^ number.exponent := by
  have nonneg : (0 : ℚ) ≤ number.mantissa * 2 ^ number.exponent := by positivity
  unfold toRat
  split_ifs
  · rw [abs_neg, abs_of_nonneg nonneg]
  · exact abs_of_nonneg nonneg

theorem toRat_eq_zero_iff (number : Binary64) :
    number.toRat = 0 ↔ number.mantissa = 0 := by
  rw [← abs_eq_zero, abs_toRat,
    mul_eq_zero_iff_right (zpow_ne_zero _ two_ne_zero), Nat.cast_eq_zero]

/-- A number other than zero has the sign of its rational. -/
theorem negative_eq_true_iff
    {number : Binary64}
    (nonzero : number.toRat ≠ 0) :
    number.negative = true ↔ number.toRat < 0 := by
  have positive : (0 : ℚ) < number.mantissa * 2 ^ number.exponent := by
    rw [← abs_toRat]
    exact abs_pos.mpr nonzero
  unfold toRat
  split_ifs with negative
  · simpa [negative] using positive
  · simpa [negative] using positive.le

/--
With a lower exponent a mantissa falls short of every full mantissa
of the higher one.
-/
theorem IsCanonical.exponent_le_of_magnitude_eq
    {left right : Binary64}
    (leftCanonical : left.IsCanonical)
    (rightCanonical : right.IsCanonical)
    (same : (left.mantissa * 2 ^ left.exponent : ℚ) =
      right.mantissa * 2 ^ right.exponent) :
    right.exponent ≤ left.exponent := by
  by_contra higher
  have leastLe := leftCanonical.leastExponent_le
  -- the right exponent is not the least one, so the right mantissa is full
  have full : leastFullMantissa ≤ right.mantissa :=
    rightCanonical.full_or_subnormal.resolve_right (by omega)
  have short : (left.mantissa : ℚ) < 2 ^ (53 : Int) := by
    linarith [leftCanonical.mantissa_add_one_le]
  have fullCast : (2 : ℚ) ^ (52 : Int) ≤ right.mantissa := by
    rw [← cast_leastFullMantissa]
    exact_mod_cast full
  apply lt_irrefl (left.mantissa * 2 ^ left.exponent : ℚ)
  calc (left.mantissa * 2 ^ left.exponent : ℚ) <
      2 ^ (53 : Int) * 2 ^ left.exponent := by gcongr
    _ = 2 ^ (52 : Int) * 2 ^ (left.exponent + 1) := by
        rw [← zpow_add₀ two_ne_zero, ← zpow_add₀ two_ne_zero]
        congr 1
        omega
    _ ≤ right.mantissa * 2 ^ right.exponent := by
        gcongr
        · exact one_le_two
        · omega
    _ = left.mantissa * 2 ^ left.exponent := same.symm

/-- A rational is the magnitude of at most one number of each sign. -/
theorem IsCanonical.eq_of_magnitude_eq
    {left right : Binary64}
    (leftCanonical : left.IsCanonical)
    (rightCanonical : right.IsCanonical)
    (sameSign : left.negative = right.negative)
    (same : (left.mantissa * 2 ^ left.exponent : ℚ) =
      right.mantissa * 2 ^ right.exponent) :
    left = right := by
  have sameExponent : left.exponent = right.exponent :=
    Int.le_antisymm
      (rightCanonical.exponent_le_of_magnitude_eq leftCanonical same.symm)
      (leftCanonical.exponent_le_of_magnitude_eq rightCanonical same)
  have sameMantissa : left.mantissa = right.mantissa := by
    rw [sameExponent] at same
    exact_mod_cast mul_right_cancel₀ (zpow_ne_zero _ two_ne_zero) same
  cases left
  cases right
  simp_all

/--
Numbers are the same if their rationals are, two zeros of different signs apart.
-/
theorem IsCanonical.eq_iff_toRat_eq
    {left right : Binary64}
    (leftCanonical : left.IsCanonical)
    (rightCanonical : right.IsCanonical) :
    left = right ↔
      left.toRat = right.toRat ∧
        (left.toRat = 0 → left.negative = right.negative) := by
  constructor
  · rintro rfl
    exact ⟨rfl, fun _ => rfl⟩
  · rintro ⟨same, zeroSign⟩
    have sameSign : left.negative = right.negative := by
      by_cases isZero : left.toRat = 0
      · exact zeroSign isZero
      · rw [Bool.eq_iff_iff, negative_eq_true_iff isZero,
          negative_eq_true_iff (same ▸ isZero), same]
    apply leftCanonical.eq_of_magnitude_eq rightCanonical sameSign
    rw [← abs_toRat, ← abs_toRat, same]

end Binary64

namespace Numeral

/-- The number of a numeral is in canonical form. -/
theorem isCanonical_of_number?
    {numeral : Numeral}
    {number : Binary64}
    (isNumber : numeral.number? = some number) :
    number.IsCanonical :=
  Binary64.isCanonical_of_read? isNumber

/--
The canonical text is read as the number of the numeral, and as none
if there is none.
-/
theorem number?_canonical (numeral : Numeral) :
    number? ⟨numeral.canonical⟩ = numeral.number? := by
  unfold canonical
  cases isNumber : numeral.number? with
  | none => exact isNumber
  | some number =>
      exact Binary64.read?_numberText (isCanonical_of_number? isNumber)

theorem number?_eq_of_agrees
    {left right : Numeral}
    (agree : left.agrees right = true) :
    left.number? = right.number? := by
  have same : left.canonical = right.canonical := beq_iff_eq.mp agree
  rw [← number?_canonical, same, number?_canonical]

/-- Numerals that are numbers agree exactly if they are the same number. -/
theorem agrees_iff_of_number?
    {left right : Numeral}
    {leftNumber rightNumber : Binary64}
    (isLeft : left.number? = some leftNumber)
    (isRight : right.number? = some rightNumber) :
    left.agrees right = true ↔ leftNumber = rightNumber := by
  constructor
  · intro agree
    have same := number?_eq_of_agrees agree
    rw [isLeft, isRight] at same
    exact Option.some.inj same
  · rintro rfl
    simp [agrees, canonical, isLeft, isRight]

/--
Texts that are finite numbers agree exactly if they stand for the same rational
and, where this is zero, have the same sign. A text that is a finite number
never agrees with one that is none.
-/
theorem agrees_iff_same_rational_and_sign_of_zero (left right : String) :
    (∀ leftNumber rightNumber,
      (ofText left).number? = some leftNumber →
        (ofText right).number? = some rightNumber →
        ((ofText left).agrees (ofText right) = true ↔
          leftNumber.toRat = rightNumber.toRat ∧
            (leftNumber.toRat = 0 →
                leftNumber.negative = rightNumber.negative))) ∧
      ((ofText left).number?.isSome ≠ (ofText right).number?.isSome →
        (ofText left).agrees (ofText right) = false) := by
  constructor
  · intro leftNumber rightNumber isLeft isRight
    rw [agrees_iff_of_number? isLeft isRight]
    exact (isCanonical_of_number? isLeft).eq_iff_toRat_eq
      (isCanonical_of_number? isRight)
  · intro onlyOne
    refine Bool.eq_false_iff.mpr fun agree => onlyOne ?_
    rw [number?_eq_of_agrees agree]

/--
The two zeros are one rational and do not agree; spellings of another number do.
-/
theorem zeros_of_both_signs_do_not_agree :
    ((ofText "-0").number? = some (.zero true) ∧
      (ofText "0").number? = some (.zero false) ∧
        (Binary64.zero true).toRat = (Binary64.zero false).toRat ∧
        (ofText "-0").agrees (ofText "0") = false) ∧
      (ofText " 0.50").agrees (ofText "5e-1") = true ∧
      (ofText "360/36").agrees (ofText "10") = false := by
  have minus : (ofText "-0").number? = some (.zero true) := by decide
  have plus : (ofText "0").number? = some (.zero false) := by decide
  have isZero (negative : Bool) : (Binary64.zero negative).toRat = 0 :=
    (Binary64.toRat_eq_zero_iff _).mpr rfl
  refine ⟨⟨minus, plus, (isZero true).trans (isZero false).symm, ?_⟩, ?_, ?_⟩
  · refine Bool.eq_false_iff.mpr fun agree => ?_
    have sameSign :=
      (((agrees_iff_same_rational_and_sign_of_zero "-0" "0").1 _ _ minus
          plus).mp agree).2
    cases sameSign (isZero true)
  · have half : (ofText " 0.50").number? =
        some ⟨false, 4503599627370496, -53⟩ := by decide
    have again : (ofText "5e-1").number? =
        some ⟨false, 4503599627370496, -53⟩ := by decide
    exact ((agrees_iff_same_rational_and_sign_of_zero " 0.50" "5e-1").1
      _ _ half again).mpr
      ⟨rfl, fun _ => rfl⟩
  · exact (agrees_iff_same_rational_and_sign_of_zero "360/36" "10").2
      (by decide)

end Numeral

end Eisen
