import Eisen.Number.Binary64
import Mathlib.Algebra.Order.Archimedean.Basic
import Mathlib.Algebra.Order.Field.Power
import Mathlib.Algebra.Order.Field.Rat
import Mathlib.Tactic.FieldSimp
import Mathlib.Tactic.Linarith
import Mathlib.Tactic.Positivity

namespace Eisen

/-!
# Rounding to binary64

Which quotients round to a given number. A number other than zero is the
rounding of every rational within half a unit of its last place, ties going to
the even mantissa; below a power of two the unit is half as large.
-/

namespace Binary64

/-- The form in which rounding gives its results. -/
structure IsCanonical (number : Binary64) : Prop where
  mantissa_lt : number.mantissa < 2 * leastFullMantissa
  leastExponent_le : leastExponent ≤ number.exponent
  le_greatestExponent : number.exponent ≤ greatestExponent
  full_or_subnormal :
    leastFullMantissa ≤ number.mantissa ∨ number.exponent = leastExponent

/-- The only number with mantissa zero is zero. -/
theorem IsCanonical.eq_zero
    {number : Binary64}
    (canonical : number.IsCanonical)
    (isZero : number.mantissa = 0) :
    number = zero number.negative := by
  obtain ⟨negative, mantissa, exponent⟩ := number
  have small : exponent = leastExponent :=
    canonical.full_or_subnormal.resolve_left
      (by simp only [leastFullMantissa] at *; omega)
  subst small
  cases isZero
  rfl

theorem isCanonical_zero (negative : Bool) : (zero negative).IsCanonical where
  mantissa_lt := by simp [zero, leastFullMantissa]
  leastExponent_le := by simp [zero]
  le_greatestExponent := by simp [zero, leastExponent, greatestExponent]
  full_or_subnormal := .inr rfl

/-! Rounding a quotient to an integer. -/

/--
An integer at most half away from a quotient is its rounding, ties to even.
-/
theorem roundQuotient_eq_of_near
    {numerator denominator nearest : Nat}
    (positive : 0 < denominator)
    (lower : 2 * (nearest * denominator) ≤ 2 * numerator + denominator)
    (upper : 2 * numerator ≤ 2 * (nearest * denominator) + denominator)
    (strict : nearest % 2 = 1 →
      2 * (nearest * denominator) < 2 * numerator + denominator ∧
        2 * numerator < 2 * (nearest * denominator) + denominator) :
    roundQuotient numerator denominator = nearest := by
  have split := Nat.div_add_mod numerator denominator
  have small := Nat.mod_lt numerator positive
  simp only [roundQuotient]
  generalize numerator / denominator = quotient at *
  generalize numerator % denominator = remainder at *
  -- the quotient is the nearest integer or the one below it
  have low : quotient < nearest + 1 := by
    by_contra above
    have : denominator * (nearest + 1) ≤ denominator * quotient :=
      Nat.mul_le_mul_left denominator (by omega)
    rw [Nat.mul_succ, Nat.mul_comm denominator nearest] at this
    omega
  have high : nearest ≤ quotient + 1 := by
    by_contra below
    have : denominator * (quotient + 2) ≤ denominator * nearest :=
      Nat.mul_le_mul_left denominator (by omega)
    rw [Nat.mul_add, Nat.mul_comm denominator nearest] at this
    omega
  rcases Nat.lt_or_ge quotient nearest with below | atLeast
  · obtain rfl : nearest = quotient + 1 := by omega
    rw [Nat.succ_mul quotient,
      Nat.mul_comm quotient denominator] at lower strict
    rw [if_pos]
    simp only [Bool.or_eq_true, decide_eq_true_eq, Bool.and_eq_true, beq_iff_eq]
    omega
  · obtain rfl : nearest = quotient := by omega
    rw [Nat.mul_comm nearest denominator] at upper strict
    rw [if_neg]
    simp only [Bool.or_eq_true, decide_eq_true_eq, Bool.and_eq_true, beq_iff_eq]
    omega

/-- Rounding a quotient does not pass a whole bound above it. -/
theorem roundQuotient_le_of_le
    {numerator denominator bound : Nat}
    (positive : 0 < denominator)
    (bounded : numerator ≤ bound * denominator) :
    roundQuotient numerator denominator ≤ bound := by
  have split := Nat.div_add_mod numerator denominator
  have small := Nat.mod_lt numerator positive
  have quotientLe : numerator / denominator ≤ bound :=
    Nat.div_le_of_le_mul (by rwa [Nat.mul_comm])
  simp only [roundQuotient]
  split_ifs with up
  · rcases Nat.lt_or_eq_of_le quotientLe with below | full
    · exact below
    · rw [full, Nat.mul_comm] at split
      simp only [Bool.or_eq_true, decide_eq_true_eq, Bool.and_eq_true,
        beq_iff_eq] at up
      omega
  · exact quotientLe

/-- Rounding a quotient does not pass a whole bound below it. -/
theorem le_roundQuotient_of_le
    {numerator denominator bound : Nat}
    (positive : 0 < denominator)
    (bounded : bound * denominator ≤ numerator) :
    bound ≤ roundQuotient numerator denominator := by
  have quotientGe : bound ≤ numerator / denominator :=
    (Nat.le_div_iff_mul_le positive).2 bounded
  simp only [roundQuotient]
  split_ifs <;> omega

/-! Quotients as rationals. -/

/-- Scaling a quotient by a power of two, up or down. -/
theorem scaledQuotient_eq
    (numerator denominator : Nat)
    (exponent : Int) :
    ((numerator * Nat.pow 2 (-exponent).toNat : Nat) : ℚ) /
        ((denominator * Nat.pow 2 exponent.toNat : Nat) : ℚ) =
      (numerator / denominator : ℚ) / 2 ^ exponent := by
  rcases Int.le_total 0 exponent with nonneg | nonpos
  · obtain ⟨power, rfl⟩ := Int.eq_ofNat_of_zero_le nonneg
    simp [div_div]
  · obtain ⟨power, rfl⟩ : ∃ power : Nat, exponent = -power :=
      ⟨(-exponent).toNat, by omega⟩
    simp [div_mul_eq_mul_div]

theorem scaledDenominator_pos
    {denominator : Nat}
    (positive : 0 < denominator)
    (exponent : Int) :
    0 < denominator * Nat.pow 2 exponent.toNat := by
  simp only [Nat.pow_eq]
  positivity

/--
Comparing the scaled sides decides whether a power of two is at
most the quotient.
-/
theorem scaled_le_scaled_iff
    {numerator denominator : Nat}
    (denominatorPos : 0 < denominator)
    (power : Int) :
    denominator * Nat.pow 2 power.toNat ≤ numerator * Nat.pow 2 (-power).toNat ↔
      (2 : ℚ) ^ power ≤ numerator / denominator := by
  have scaledPos :
      (0 : ℚ) < ((denominator * Nat.pow 2 power.toNat : Nat) : ℚ) := by
    exact_mod_cast scaledDenominator_pos denominatorPos power
  have unitPos : (0 : ℚ) < 2 ^ power := by positivity
  rw [← @Nat.cast_le ℚ, ← one_le_div scaledPos, scaledQuotient_eq,
    one_le_div unitPos]

/--
A value between neighbouring powers of two is at least the powers up
to the lower one.
-/
theorem two_zpow_le_iff
    {value : ℚ}
    {power : Int}
    (lower : (2 : ℚ) ^ power ≤ value)
    (upper : value < 2 ^ (power + 1))
    (other : Int) :
    (2 : ℚ) ^ other ≤ value ↔ other ≤ power := by
  constructor
  · intro reached
    have := (zpow_lt_zpow_iff_right₀ one_lt_two).1 (reached.trans_lt upper)
    omega
  · exact fun below => (zpow_le_zpow_right₀ one_le_two below).trans lower

/-- A number lies between two neighbouring powers of two. -/
theorem log2_bounds
    {number : Nat}
    (positive : 0 < number) :
    (2 : ℚ) ^ (number.log2 : Int) ≤ number ∧
      (number : ℚ) < 2 ^ ((number.log2 : Int) + 1) := by
  constructor
  · rw [zpow_natCast]
    exact_mod_cast Nat.log2_self_le positive.ne'
  · exact_mod_cast (Nat.lt_log2_self : number < 2 ^ (number.log2 + 1))

/-- The difference of the logarithms is off by less than one. -/
theorem quotient_bounds
    {numerator denominator : Nat}
    (numeratorPos : 0 < numerator)
    (denominatorPos : 0 < denominator) :
    (2 : ℚ) ^ ((numerator.log2 : Int) - denominator.log2 - 1) ≤
      numerator / denominator ∧
      (numerator / denominator :
        ℚ) < 2 ^ ((numerator.log2 : Int) - denominator.log2 + 1) := by
  have denominatorPos' : (0 : ℚ) < denominator := by
    exact_mod_cast denominatorPos
  obtain ⟨numeratorLow, numeratorHigh⟩ := log2_bounds numeratorPos
  obtain ⟨denominatorLow, denominatorHigh⟩ := log2_bounds denominatorPos
  rw [le_div_iff₀ denominatorPos', div_lt_iff₀ denominatorPos']
  constructor
  · calc (2 : ℚ) ^ ((numerator.log2 : Int) - denominator.log2 - 1) * denominator
        ≤ 2 ^ ((numerator.log2 : Int) - denominator.log2 - 1) *
            2 ^ ((denominator.log2 : Int) + 1) := by gcongr
      _ = 2 ^ (numerator.log2 : Int) := by
          rw [← zpow_add₀ two_ne_zero]
          congr 1
          omega
      _ ≤ numerator := numeratorLow
  · calc (numerator : ℚ) < 2 ^ ((numerator.log2 : Int) + 1) := numeratorHigh
      _ = 2 ^ ((numerator.log2 : Int) - denominator.log2 + 1) * 2 ^
        (denominator.log2 : Int) := by
          rw [← zpow_add₀ two_ne_zero]
          congr 1
          omega
      _ ≤ 2 ^ ((numerator.log2 : Int) - denominator.log2 + 1) *
        denominator := by gcongr

/-- The logarithm is the only power of two next below the quotient. -/
theorem floorLog2_eq
    {numerator denominator : Nat}
    {power : Int}
    (numeratorPos : 0 < numerator)
    (denominatorPos : 0 < denominator)
    (lower : (2 : ℚ) ^ power ≤ numerator / denominator)
    (upper : (numerator / denominator : ℚ) < 2 ^ (power + 1)) :
    floorLog2 numerator denominator = power := by
  obtain ⟨low, high⟩ := quotient_bounds numeratorPos denominatorPos
  have atLeast := (two_zpow_le_iff lower upper _).1 low
  have atMost := (zpow_lt_zpow_iff_right₀ one_lt_two).1 (lower.trans_lt high)
  simp only [floorLog2, scaled_le_scaled_iff denominatorPos,
    two_zpow_le_iff lower upper]
  split_ifs <;> omega

/-- Every positive quotient lies between two neighbouring powers of two. -/
theorem floorLog2_spec
    {numerator denominator : Nat}
    (numeratorPos : 0 < numerator)
    (denominatorPos : 0 < denominator) :
    (2 : ℚ) ^ floorLog2 numerator denominator ≤ numerator / denominator ∧
      (numerator / denominator :
        ℚ) < 2 ^ (floorLog2 numerator denominator + 1) := by
  have quotientPos : (0 : ℚ) < numerator / denominator := by positivity
  obtain ⟨power, lower, upper⟩ :=
    exists_mem_Ico_zpow quotientPos (by norm_num : (1 : ℚ) < 2)
  rw [floorLog2_eq numeratorPos denominatorPos lower upper]
  exact ⟨lower, upper⟩

/-! The results of rounding are canonical. -/

theorem cast_leastFullMantissa :
    ((leastFullMantissa : Nat) : ℚ) = 2 ^ (52 : Int) := by
  norm_num [leastFullMantissa]

/-- Rounding a scaled quotient does not pass a whole bound above it. -/
theorem roundQuotient_scaled_le
    {numerator denominator bound : Nat}
    {exponent : Int}
    (positive : 0 < denominator)
    (bounded : (numerator / denominator : ℚ) / 2 ^ exponent ≤ bound) :
    roundQuotient (numerator * Nat.pow 2 (-exponent).toNat)
      (denominator * Nat.pow 2 exponent.toNat) ≤ bound := by
  have scaledPos := scaledDenominator_pos positive exponent
  rw [← scaledQuotient_eq, div_le_iff₀ (by exact_mod_cast scaledPos)] at bounded
  exact roundQuotient_le_of_le scaledPos (by exact_mod_cast bounded)

/-- Rounding a scaled quotient does not pass a whole bound below it. -/
theorem le_roundQuotient_scaled
    {numerator denominator bound : Nat}
    {exponent : Int}
    (positive : 0 < denominator)
    (bounded : bound ≤ (numerator / denominator : ℚ) / 2 ^ exponent) :
    bound ≤ roundQuotient (numerator * Nat.pow 2 (-exponent).toNat)
      (denominator * Nat.pow 2 exponent.toNat) := by
  have scaledPos := scaledDenominator_pos positive exponent
  rw [← scaledQuotient_eq, le_div_iff₀ (by exact_mod_cast scaledPos)] at bounded
  exact le_roundQuotient_of_le scaledPos (by exact_mod_cast bounded)

/-- At the exponent of a quotient its mantissa has at most the full length. -/
theorem roundQuotient_le_full
    {numerator denominator : Nat}
    (numeratorPos : 0 < numerator)
    (denominatorPos : 0 < denominator)
    (exponent : Int)
    (reached : floorLog2 numerator denominator - 52 ≤ exponent) :
    roundQuotient (numerator * Nat.pow 2 (-exponent).toNat)
      (denominator * Nat.pow 2 exponent.toNat) ≤ 2 * leastFullMantissa := by
  have upper := (floorLog2_spec numeratorPos denominatorPos).2
  have unitPos : (0 : ℚ) < 2 ^ exponent := by positivity
  apply roundQuotient_scaled_le denominatorPos
  calc (numerator / denominator : ℚ) / 2 ^ exponent ≤ 2 ^ (53 : Int) := by
        rw [div_le_iff₀ unitPos, ← zpow_add₀ two_ne_zero]
        exact upper.le.trans (zpow_le_zpow_right₀ one_le_two (by omega))
    _ = ((2 * leastFullMantissa : Nat) : ℚ) := by norm_num [leastFullMantissa]

/--
Unless its exponent is the least one, the mantissa of a quotient has
the full length.
-/
theorem full_le_roundQuotient
    {numerator denominator : Nat}
    (numeratorPos : 0 < numerator)
    (denominatorPos : 0 < denominator)
    (exponent : Int)
    (reached : exponent ≤ floorLog2 numerator denominator - 52) :
    leastFullMantissa ≤ roundQuotient (numerator * Nat.pow 2 (-exponent).toNat)
      (denominator * Nat.pow 2 exponent.toNat) := by
  have lower := (floorLog2_spec numeratorPos denominatorPos).1
  have unitPos : (0 : ℚ) < 2 ^ exponent := by positivity
  apply le_roundQuotient_scaled denominatorPos
  rw [cast_leastFullMantissa, le_div_iff₀ unitPos, ← zpow_add₀ two_ne_zero]
  exact (zpow_le_zpow_right₀ one_le_two (by omega)).trans lower

/-- A quotient is rounded to a canonical number. -/
theorem isCanonical_of_ofRatio
    {negative : Bool}
    {numerator denominator : Nat}
    {number : Binary64}
    (denominatorPos : 0 < denominator)
    (rounded : ofRatio negative numerator denominator = some number) :
    number.IsCanonical := by
  rcases Nat.eq_zero_or_pos numerator with isZero | numeratorPos
  · rw [ofRatio, if_pos isZero] at rounded
    cases rounded
    exact isCanonical_zero negative
  · rw [ofRatio, if_neg numeratorPos.ne'] at rounded
    simp only at rounded
    generalize chosen :
      max (floorLog2 numerator denominator - 52) leastExponent =
        exponent at rounded
    have least : leastExponent ≤ exponent := by omega
    have mantissaLe :=
      roundQuotient_le_full numeratorPos denominatorPos exponent (by omega)
    have mantissaGe (aboveLeast : leastExponent < exponent) :=
      full_le_roundQuotient numeratorPos denominatorPos exponent (by omega)
    generalize roundQuotient (numerator * Nat.pow 2 (-exponent).toNat)
      (denominator * Nat.pow 2 exponent.toNat) = mantissa at *
    by_cases carried : mantissa = 2 * leastFullMantissa
    · simp only [if_pos carried] at rounded
      split_ifs at rounded with tooLarge
      cases rounded
      exact ⟨by simp [leastFullMantissa], by simp only; omega,
        by simp only; omega, .inl (Nat.le_refl _)⟩
    · simp only [if_neg carried] at rounded
      split_ifs at rounded with tooLarge
      cases rounded
      exact ⟨by simp only; omega, least, by simp only; omega, by
        simp only; omega⟩

/-- A quotient with a power of two to spare has a rounding. -/
theorem ofRatio_isSome
    {negative : Bool}
    {numerator denominator : Nat}
    (denominatorPos : 0 < denominator)
    (bounded : (numerator / denominator : ℚ) < 2 ^ (1023 : Int)) :
    (ofRatio negative numerator denominator).isSome := by
  rcases Nat.eq_zero_or_pos numerator with isZero | numeratorPos
  · rw [ofRatio, if_pos isZero]
    rfl
  · have log : floorLog2 numerator denominator < 1023 :=
      (zpow_lt_zpow_iff_right₀ (by norm_num : (1 : ℚ) < 2)).1
        ((floorLog2_spec numeratorPos denominatorPos).1.trans_lt bounded)
    have exponentLe :
        max (floorLog2 numerator denominator - 52) leastExponent ≤ 970 := by
      simp only [leastExponent]
      omega
    rw [ofRatio, if_neg numeratorPos.ne']
    simp only
    generalize max (floorLog2 numerator denominator - 52) leastExponent =
      exponent at *
    have inRange (mantissa : Nat) : ¬ greatestExponent <
        (if mantissa = 2 * leastFullMantissa then
          (⟨negative, leastFullMantissa, exponent + 1⟩ : Binary64)
        else
          ⟨negative, mantissa, exponent⟩).exponent := by
      split_ifs <;> simp only [greatestExponent] <;> omega
    rw [if_neg (inRange _)]
    rfl

/-! What rounds to a number. -/

/--
How far below a number the rationals reach that round to it, in units of the
last place. Below a power of two the numbers are twice as dense.
-/
def lowerGap (number : Binary64) : ℚ :=
  if number.mantissa = leastFullMantissa ∧ leastExponent < number.exponent then
    1 / 4
  else
    1 / 2

theorem lowerGap_le_half (number : Binary64) : number.lowerGap ≤ 1 / 2 := by
  unfold lowerGap
  split_ifs <;> norm_num

/-- A rational is near enough to a number other than zero to round to it. -/
structure RoundsTo
    (value : ℚ)
    (number : Binary64) : Prop where
  lower : number.mantissa - number.lowerGap ≤ value / 2 ^ number.exponent
  upper : value / 2 ^ number.exponent ≤ number.mantissa + 1 / 2
  strict : number.mantissa % 2 = 1 →
    number.mantissa - number.lowerGap < value / 2 ^ number.exponent ∧
      value / 2 ^ number.exponent < number.mantissa + 1 / 2

/--
A scaled quotient is rounded to the whole number within half a unit, and a tie
to an even one.
-/
theorem roundQuotient_scaled_eq
    {numerator denominator : Nat}
    {exponent : Int}
    (nearest : Nat)
    (positive : 0 < denominator)
    (lower : nearest - 1 / 2 ≤ (numerator / denominator : ℚ) / 2 ^ exponent)
    (upper : (numerator / denominator : ℚ) / 2 ^ exponent ≤ nearest + 1 / 2)
    (strict : nearest % 2 = 1 →
      nearest - 1 / 2 < (numerator / denominator : ℚ) / 2 ^ exponent ∧
        (numerator / denominator : ℚ) / 2 ^ exponent < nearest + 1 / 2) :
    roundQuotient (numerator * Nat.pow 2 (-exponent).toNat)
      (denominator * Nat.pow 2 exponent.toNat) = nearest := by
  rw [← scaledQuotient_eq] at lower upper strict
  have scaledPos := scaledDenominator_pos positive exponent
  generalize numerator * Nat.pow 2 (-exponent).toNat = scaledNumerator at *
  generalize denominator * Nat.pow 2 exponent.toNat = scaledDenominator at *
  have scaledPos' : (0 : ℚ) < scaledDenominator := by exact_mod_cast scaledPos
  rw [le_div_iff₀ scaledPos'] at lower
  rw [div_le_iff₀ scaledPos'] at upper
  rw [lt_div_iff₀ scaledPos', div_lt_iff₀ scaledPos'] at strict
  apply roundQuotient_eq_of_near scaledPos
  · have : (2 * (nearest * scaledDenominator) : ℚ) ≤
        2 * scaledNumerator + scaledDenominator := by linarith
    exact_mod_cast this
  · have : (2 * scaledNumerator : ℚ) ≤
        2 * (nearest * scaledDenominator) + scaledDenominator := by linarith
    exact_mod_cast this
  · intro odd
    obtain ⟨below, above⟩ := strict odd
    have strictLower : (2 * (nearest * scaledDenominator) : ℚ) <
        2 * scaledNumerator + scaledDenominator := by linarith
    have strictUpper : (2 * scaledNumerator : ℚ) <
        2 * (nearest * scaledDenominator) + scaledDenominator := by linarith
    exact ⟨by exact_mod_cast strictLower, by exact_mod_cast strictUpper⟩

theorem RoundsTo.pos
    {value : ℚ}
    {number : Binary64}
    (rounds : RoundsTo value number)
    (nonzero : 0 < number.mantissa) :
    0 < value := by
  have unitPos : (0 : ℚ) < 2 ^ number.exponent := by positivity
  have atLeastOne : (1 : ℚ) ≤ number.mantissa := by exact_mod_cast nonzero
  have : 0 < value / 2 ^ number.exponent := by
    linarith [rounds.lower, number.lowerGap_le_half]
  exact (div_pos_iff_of_pos_right unitPos).1 this

/-- A canonical mantissa has at most 53 bits. -/
theorem IsCanonical.mantissa_add_one_le
    {number : Binary64}
    (canonical : number.IsCanonical) :
    (number.mantissa : ℚ) + 1 ≤ 2 ^ (53 : Int) := by
  have below := canonical.mantissa_lt
  have bound : number.mantissa + 1 ≤ 2 * leastFullMantissa := by omega
  calc (number.mantissa : ℚ) + 1 ≤ ((2 * leastFullMantissa : Nat) : ℚ) := by
        exact_mod_cast bound
    _ = 2 ^ (53 : Int) := by norm_num [leastFullMantissa]

section

variable
    {number : Binary64}
    {numerator denominator : Nat}
    (canonical : number.IsCanonical)
    (nonzero : 0 < number.mantissa)
    (denominatorPos : 0 < denominator)
    (rounds : RoundsTo (numerator / denominator) number)

include nonzero rounds in
theorem RoundsTo.numerator_pos : 0 < numerator := by
  have positive := rounds.pos nonzero
  by_contra notPos
  obtain rfl : numerator = 0 := by omega
  simp at positive

include canonical nonzero denominatorPos rounds

/--
Where the exponent is that of the number, the mantissa is the nearest integer.
-/
theorem ofRatio_eq_of_exponent_eq
    (kept : max (floorLog2 numerator denominator - 52) leastExponent =
      number.exponent) :
    ofRatio number.negative numerator denominator = some number := by
  have gapLe := number.lowerGap_le_half
  have mantissa := roundQuotient_scaled_eq number.mantissa denominatorPos
    (by linarith [rounds.lower]) rounds.upper
    (fun odd => ⟨by linarith [(rounds.strict odd).1], (rounds.strict odd).2⟩)
  have notCarried : number.mantissa ≠ 2 * leastFullMantissa :=
    canonical.mantissa_lt.ne
  have inRange : ¬ greatestExponent < number.exponent :=
    not_lt.2 canonical.le_greatestExponent
  rw [ofRatio, if_neg (rounds.numerator_pos nonzero).ne']
  simp only [kept, mantissa, if_neg notCarried, if_neg inRange]

/--
Another exponent is found only for a quotient that rounds up to a power of two.
-/
theorem below_of_exponent_ne
    (other : max (floorLog2 numerator denominator - 52) leastExponent ≠
      number.exponent) :
    (numerator / denominator : ℚ) / 2 ^ number.exponent < 2 ^ (52 : Int) ∧
      leastExponent < number.exponent ∧
        number.mantissa = leastFullMantissa := by
  have unitPos : (0 : ℚ) < 2 ^ number.exponent := by positivity
  have numeratorPos := rounds.numerator_pos nonzero
  have leastLe := canonical.leastExponent_le
  have below :
      (numerator / denominator : ℚ) / 2 ^ number.exponent < 2 ^ (52 : Int) := by
    by_contra reached
    have bounded : (numerator / denominator : ℚ) / 2 ^ number.exponent <
        2 ^ (53 : Int) := by
      linarith [rounds.upper, canonical.mantissa_add_one_le]
    rw [not_lt, le_div_iff₀ unitPos, ← zpow_add₀ two_ne_zero] at reached
    rw [div_lt_iff₀ unitPos, ← zpow_add₀ two_ne_zero] at bounded
    have log : floorLog2 numerator denominator = 52 + number.exponent :=
      floorLog2_eq numeratorPos denominatorPos reached
        (bounded.trans_eq (by congr 1; omega))
    omega
  have aboveLeast : leastExponent < number.exponent := by
    by_contra atLeast
    have logLt : floorLog2 numerator denominator < 52 + number.exponent := by
      rw [div_lt_iff₀ unitPos, ← zpow_add₀ two_ne_zero] at below
      exact (zpow_lt_zpow_iff_right₀ one_lt_two).1
        ((floorLog2_spec numeratorPos denominatorPos).1.trans_lt below)
    omega
  refine ⟨below, aboveLeast, Nat.le_antisymm ?_ ?_⟩
  · rw [← cast_leastFullMantissa] at below
    have : (number.mantissa : ℚ) < ((leastFullMantissa + 1 : Nat) : ℚ) := by
      push_cast
      linarith [rounds.lower, number.lowerGap_le_half]
    exact Nat.lt_succ_iff.1 (by exact_mod_cast this)
  · exact canonical.full_or_subnormal.resolve_right aboveLeast.ne'

omit nonzero in
/-- Below a power of two the unit is half as large, and the mantissa carries. -/
theorem ofRatio_eq_of_below
    (numeratorPos : 0 < numerator)
    (below :
      (numerator / denominator : ℚ) / 2 ^ number.exponent < 2 ^ (52 : Int))
    (aboveLeast : leastExponent < number.exponent)
    (isLeast : number.mantissa = leastFullMantissa) :
    ofRatio number.negative numerator denominator = some number := by
  have lower := rounds.lower
  have inRange : ¬ greatestExponent < number.exponent :=
    not_lt.2 canonical.le_greatestExponent
  obtain ⟨negative, mantissa, exponent⟩ := number
  simp only at *
  subst isLeast
  have unitPos : (0 : ℚ) < 2 ^ exponent := by positivity
  have gap : lowerGap ⟨negative, leastFullMantissa, exponent⟩ = 1 / 4 :=
    if_pos ⟨rfl, aboveLeast⟩
  rw [gap, cast_leastFullMantissa] at lower
  have log : floorLog2 numerator denominator = 51 + exponent := by
    apply floorLog2_eq numeratorPos denominatorPos
    · have half :
          (2 : ℚ) ^ (51 : Int) ≤ (numerator / denominator : ℚ) / 2 ^ exponent :=
        le_trans (by norm_num) lower
      rwa [le_div_iff₀ unitPos, ← zpow_add₀ two_ne_zero] at half
    · rw [div_lt_iff₀ unitPos, ← zpow_add₀ two_ne_zero] at below
      exact below.trans_eq (by congr 1; omega)
  have doubled : (numerator / denominator : ℚ) / 2 ^ (exponent - 1) =
      2 * ((numerator / denominator : ℚ) / 2 ^ exponent) := by
    rw [zpow_sub_one₀ two_ne_zero]
    field_simp
  have carried := @roundQuotient_scaled_eq numerator denominator (exponent - 1)
    (2 * leastFullMantissa) denominatorPos
    (by rw [doubled, Nat.cast_mul, cast_leastFullMantissa]; push_cast; linarith)
    (by rw [doubled, Nat.cast_mul, cast_leastFullMantissa]; push_cast; linarith)
    (fun odd => by simp [leastFullMantissa] at odd)
  have chosen : max (floorLog2 numerator denominator - 52) leastExponent =
      exponent - 1 := by omega
  rw [ofRatio, if_neg numeratorPos.ne']
  simp only [chosen, carried, if_true, Int.sub_add_cancel, if_neg inRange]

/-- Every quotient near enough to a number rounds to it. -/
theorem ofRatio_eq_of_roundsTo :
    ofRatio number.negative numerator denominator = some number := by
  by_cases kept :
      max (floorLog2 numerator denominator - 52) leastExponent = number.exponent
  · exact ofRatio_eq_of_exponent_eq canonical nonzero denominatorPos rounds kept
  · obtain ⟨below, aboveLeast, isLeast⟩ :=
      below_of_exponent_ne canonical nonzero denominatorPos rounds kept
    exact ofRatio_eq_of_below canonical denominatorPos rounds
      (rounds.numerator_pos nonzero)
      below aboveLeast isLeast

end

end Binary64

end Eisen
