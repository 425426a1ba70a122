import Eisen.Numeral
import Eisen.Proofs.Number.Rounding
import Mathlib.Data.List.TakeWhile

namespace Eisen

/-!
# Shortest digits read back

The shortest decimal of a number rounds to the number: every grid point that is
kept lies in the number's rounding interval, and among decimals of seventeen
digits one of the two neighbours does. The positional text of the digits has the
value of the decimal, so that reading it gives the number.
-/

namespace Decimal

/-- The rational that a decimal stands for. -/
def value (decimal : Decimal) : ℚ :=
  decimal.coefficient * 10 ^ decimal.exponent

/-- Numerator and denominator of a decimal as `toBinary64` forms them. -/
theorem ratio_eq_value (decimal : Decimal) :
    ((decimal.coefficient * Nat.pow 10 decimal.exponent.toNat : Nat) : ℚ) /
        ((Nat.pow 10 (-decimal.exponent).toNat : Nat) : ℚ) =
      decimal.value := by
  obtain ⟨coefficient, exponent⟩ := decimal
  rcases Int.le_total 0 exponent with nonneg | nonpos
  · obtain ⟨power, rfl⟩ := Int.eq_ofNat_of_zero_le nonneg
    simp [value]
  · obtain ⟨power, rfl⟩ : ∃ power : Nat, exponent = -power :=
      ⟨(-exponent).toNat, by omega⟩
    simp [value, div_eq_mul_inv]

theorem digitCount_pos (number : Nat) : 0 < digitCount number :=
  Nat.length_toDigits_pos

theorem lt_pow_digitCount (number : Nat) : number < 10 ^ digitCount number :=
  (Nat.length_toDigits_le_iff (by decide) (digitCount_pos number)).1
    (Nat.le_refl _)

/-- A positive number reaches the power of ten of all its digits but one. -/
theorem pow_digitCount_le
    {number : Nat}
    (positive : 0 < number) :
    10 ^ (digitCount number - 1) ≤ number := by
  by_contra below
  rcases Nat.eq_zero_or_pos (digitCount number - 1) with single | several
  · rw [single] at below
    omega
  · have fewer : digitCount number ≤ digitCount number - 1 :=
      (Nat.length_toDigits_le_iff (by decide : 1 < 10) several).2 (by omega)
    omega

/-- The leading digit of a decimal fixes its size. -/
theorem value_bounds
    {decimal : Decimal}
    (positive : 0 < decimal.coefficient) :
    (10 : ℚ) ^ ((digitCount decimal.coefficient : Int) + decimal.exponent - 1) ≤
      decimal.value ∧
      decimal.value < (10 : ℚ) ^
        ((digitCount decimal.coefficient : Int) + decimal.exponent) := by
  have tenPos : (0 : ℚ) < 10 ^ decimal.exponent := by positivity
  have countPos := digitCount_pos decimal.coefficient
  constructor
  · have lower : ((10 ^ (digitCount decimal.coefficient - 1) : Nat) : ℚ) ≤
        decimal.coefficient := by
      exact_mod_cast pow_digitCount_le positive
    calc (10 : ℚ) ^
        ((digitCount decimal.coefficient : Int) + decimal.exponent - 1)
        = ((10 ^ (digitCount decimal.coefficient - 1) : Nat) : ℚ) * 10 ^
          decimal.exponent := by
          rw [Nat.cast_pow, Nat.cast_ofNat, ← zpow_natCast,
            ← zpow_add₀ (by norm_num)]
          congr 1
          omega
      _ ≤ decimal.value := mul_le_mul_of_nonneg_right lower tenPos.le
  · have upper : (decimal.coefficient : ℚ) <
        ((10 ^ digitCount decimal.coefficient : Nat) : ℚ) := by
      exact_mod_cast lt_pow_digitCount decimal.coefficient
    calc decimal.value
        < ((10 ^ digitCount decimal.coefficient : Nat) : ℚ) * 10 ^
          decimal.exponent :=
          mul_lt_mul_of_pos_right upper tenPos
      _ = _ := by
          rw [Nat.cast_pow, Nat.cast_ofNat, ← zpow_natCast,
            ← zpow_add₀ (by norm_num)]

/-! Powers of two and ten at the ends of the range of binary64. -/

theorem two_pow_1024_lt : (2 : ℚ) ^ (1024 : Int) < 10 ^ (310 : Int) := by
  have half : ((2 : ℚ) ^ 256) ^ 2 < 10 ^ 155 := by norm_num
  calc (2 : ℚ) ^ (1024 : Int) = (((2 : ℚ) ^ 256) ^ 2) ^ 2 := by
        rw [← pow_mul, ← pow_mul]; rfl
    _ < (10 ^ 155) ^ 2 := by gcongr
    _ = 10 ^ (310 : Int) := by rw [← pow_mul]; rfl

theorem ten_pow_neg_331_lt : (10 : ℚ) ^ (-331 : Int) < 2 ^ (-1075 : Int) := by
  have upper : (2 : ℚ) ^ (1075 : Int) < 10 ^ (331 : Int) := by
    calc (2 : ℚ) ^ (1075 : Int) = 2 ^ (1024 : Int) * 2 ^ (51 : Int) := by
          rw [← zpow_add₀ two_ne_zero]; rfl
      _ < 10 ^ (310 : Int) * 10 ^ (21 : Int) :=
          mul_lt_mul'' two_pow_1024_lt (by norm_num) (by positivity)
            (by positivity)
      _ = 10 ^ (331 : Int) := by rw [← zpow_add₀ (by norm_num)]; rfl
  rw [zpow_neg, zpow_neg]
  exact inv_strictAnti₀ (by positivity) upper

end Decimal

namespace Binary64.RoundsTo

variable
    {value : ℚ}
    {number : Binary64}
    (canonical : number.IsCanonical)

include canonical

theorem le_two_pow_1024
    (rounds : RoundsTo value number) :
    value ≤ 2 ^ (1024 : Int) := by
  have unitPos : (0 : ℚ) < 2 ^ number.exponent := by positivity
  have exponentLe : 53 + number.exponent ≤ 1024 := by
    have := canonical.le_greatestExponent
    simp only [greatestExponent] at this
    omega
  calc value ≤ (number.mantissa + 1 / 2) * 2 ^ number.exponent :=
        (div_le_iff₀ unitPos).1 rounds.upper
    _ ≤ 2 ^ (53 : Int) * 2 ^ number.exponent := by
        gcongr
        linarith [canonical.mantissa_add_one_le]
    _ = 2 ^ (53 + number.exponent) := by rw [zpow_add₀ two_ne_zero]
    _ ≤ 2 ^ (1024 : Int) := zpow_le_zpow_right₀ one_le_two exponentLe

/-- A value that does not round to zero is at least half the least number. -/
theorem two_pow_neg_1075_le
    (nonzero : 0 < number.mantissa)
    (rounds : RoundsTo value number) :
    2 ^ (-1075 : Int) ≤ value := by
  have unitPos : (0 : ℚ) < 2 ^ number.exponent := by positivity
  have half : (1 : ℚ) / 2 ≤ number.mantissa - number.lowerGap := by
    have : (1 : ℚ) ≤ number.mantissa := by exact_mod_cast nonzero
    linarith [number.lowerGap_le_half]
  calc (2 : ℚ) ^ (-1075 : Int) = 1 / 2 * 2 ^ leastExponent := by
        rw [one_div, ← zpow_neg_one, ← zpow_add₀ two_ne_zero]
        rfl
    _ ≤ 1 / 2 * 2 ^ number.exponent := by
        gcongr
        · exact one_le_two
        · exact canonical.leastExponent_le
    _ ≤ value := (le_div_iff₀ unitPos).1 (half.trans rounds.lower)

end Binary64.RoundsTo

namespace Decimal

/-- A decimal near enough to a number is read as it. -/
theorem toBinary64_eq_of_roundsTo
    {decimal : Decimal}
    {number : Binary64}
    (canonical : number.IsCanonical)
    (nonzero : 0 < number.mantissa)
    (rounds : Binary64.RoundsTo decimal.value number) :
    decimal.toBinary64 number.negative = some number := by
  have valuePos := rounds.pos nonzero
  have coefficientPos : 0 < decimal.coefficient := by
    by_contra notPos
    have isZero : decimal.coefficient = 0 := by omega
    simp [value, isZero] at valuePos
  obtain ⟨lower, upper⟩ := value_bounds coefficientPos
  have oneLtTen : (1 : ℚ) < 10 := by norm_num
  have notTooLarge :
      ¬ 310 < (digitCount decimal.coefficient : Int) + decimal.exponent := by
    have small : (10 : ℚ) ^
        ((digitCount decimal.coefficient : Int) + decimal.exponent - 1) <
        10 ^ (310 : Int) :=
      (lower.trans (rounds.le_two_pow_1024 canonical)).trans_lt two_pow_1024_lt
    have := (zpow_lt_zpow_iff_right₀ oneLtTen).1 small
    omega
  have notTooSmall :
      ¬ (digitCount decimal.coefficient : Int) + decimal.exponent < -330 := by
    have large : (10 : ℚ) ^ (-331 : Int) <
        10 ^ ((digitCount decimal.coefficient : Int) + decimal.exponent) :=
      ten_pow_neg_331_lt.trans
        ((rounds.two_pow_neg_1075_le canonical nonzero).trans_lt upper)
    have := (zpow_lt_zpow_iff_right₀ oneLtTen).1 large
    omega
  simp only [toBinary64]
  rw [if_neg coefficientPos.ne', if_neg notTooLarge, if_neg notTooSmall]
  apply Binary64.ofRatio_eq_of_roundsTo canonical nonzero
  · simp only [Nat.pow_eq]
    positivity
  · rwa [ratio_eq_value]

end Decimal

namespace Digits

/-- The power of ten that `floorLog10` gives is at most the quotient. -/
theorem pow_floorLog10_le
    {numerator denominator : Nat}
    (numeratorPos : 0 < numerator)
    (denominatorPos : 0 < denominator) :
    (10 : ℚ) ^ floorLog10 numerator denominator ≤ numerator / denominator := by
  have denominatorPos' : (0 : ℚ) < denominator := by
    exact_mod_cast denominatorPos
  rw [le_div_iff₀ denominatorPos']
  unfold floorLog10
  split_ifs with atLeastOne
  · have quotientPos := Nat.div_pos atLeastOne denominatorPos
    have countPos := Decimal.digitCount_pos (numerator / denominator)
    have : 10 ^ (Decimal.digitCount (numerator / denominator) - 1) *
        denominator ≤ numerator :=
      (Nat.mul_le_mul_right _ (Decimal.pow_digitCount_le quotientPos)).trans
        (Nat.div_mul_le_self _ _)
    rw [← Nat.cast_pred countPos, zpow_natCast]
    exact_mod_cast this
  · simp only
    split_ifs with reached
    · rw [Nat.pow_eq] at reached
      have countPos := Decimal.digitCount_pos (denominator / numerator)
      rw [show (1 : Int) - Decimal.digitCount (denominator / numerator) =
        -((Decimal.digitCount (denominator / numerator) - 1 : Nat) : Int) by
          omega,
        zpow_neg, zpow_natCast, inv_mul_le_iff₀ (by positivity), mul_comm]
      exact_mod_cast reached
    · have below := Decimal.lt_pow_digitCount (denominator / numerator)
      rw [Nat.div_lt_iff_lt_mul numeratorPos] at below
      rw [zpow_neg, zpow_natCast, inv_mul_le_iff₀ (by positivity)]
      exact_mod_cast below.le

namespace Interval

/--
The two sides that `holds` compares, as a quotient in quarters of
the last place.
-/
theorem scaled_div_unit
    (number : Binary64)
    (decimal : Decimal) :
    ((decimal.coefficient * Nat.pow 10 decimal.exponent.toNat *
          (interval number).unitDenominator : Nat) : ℚ) /
        ((Nat.pow 10 (-decimal.exponent).toNat *
          (interval number).unitNumerator : Nat) : ℚ) =
      4 * (decimal.value / 2 ^ number.exponent) := by
  have scaled := Binary64.scaledQuotient_eq
    (decimal.coefficient * Nat.pow 10 decimal.exponent.toNat)
    (Nat.pow 10 (-decimal.exponent).toNat) (number.exponent - 2)
  rw [Int.neg_sub, Decimal.ratio_eq_value] at scaled
  simp only [interval]
  rw [scaled, zpow_sub₀ two_ne_zero]
  field_simp
  norm_num

/--
A decimal is in an interval if the scaled comparison with both ends says so.
-/
theorem holds_eq_true_iff
    (range : Interval)
    (decimal : Decimal) :
    range.holds decimal = true ↔
      if range.closed then
        range.low *
          (Nat.pow 10 (-decimal.exponent).toNat * range.unitNumerator) ≤
            decimal.coefficient * Nat.pow 10 decimal.exponent.toNat *
              range.unitDenominator ∧
          decimal.coefficient * Nat.pow 10 decimal.exponent.toNat *
            range.unitDenominator ≤
            range.high *
              (Nat.pow 10 (-decimal.exponent).toNat * range.unitNumerator)
      else
        range.low *
          (Nat.pow 10 (-decimal.exponent).toNat * range.unitNumerator) <
            decimal.coefficient * Nat.pow 10 decimal.exponent.toNat *
              range.unitDenominator ∧
          decimal.coefficient * Nat.pow 10 decimal.exponent.toNat *
            range.unitDenominator <
            range.high *
              (Nat.pow 10 (-decimal.exponent).toNat * range.unitNumerator) := by
  simp only [holds]
  split_ifs <;> rw [Bool.and_eq_true, decide_eq_true_iff, decide_eq_true_iff]

/-- The lower end is a gap below the mantissa, in quarters. -/
theorem cast_low_interval
    {number : Binary64}
    (nonzero : 0 < number.mantissa) :
    ((interval number).low : ℚ) = 4 * (number.mantissa - number.lowerGap) := by
  unfold interval Binary64.lowerGap
  simp only
  split_ifs <;> rw [Nat.cast_sub (by omega)] <;> push_cast <;> ring

/-- The upper end is half a unit above the mantissa, in quarters. -/
theorem cast_high_interval (number : Binary64) :
    ((interval number).high : ℚ) = 4 * (number.mantissa + 1 / 2) := by
  simp only [interval]
  push_cast
  ring

/--
A decimal is in the interval exactly if it is near enough to round
to the number.
-/
theorem holds_interval_iff
    {number : Binary64}
    (nonzero : 0 < number.mantissa)
    (decimal : Decimal) :
    (interval number).holds decimal = true ↔
      Binary64.RoundsTo decimal.value number := by
  have ratio := scaled_div_unit number decimal
  have unitPos : (0 : ℚ) <
      ((Nat.pow 10 (-decimal.exponent).toNat *
        (interval number).unitNumerator : Nat) : ℚ) := by
    simp only [interval, Nat.pow_eq]
    positivity
  have low := cast_low_interval nonzero
  have high := cast_high_interval number
  have closed : (interval number).closed = true ↔ number.mantissa % 2 = 0 :=
    beq_iff_eq
  rw [holds_eq_true_iff]
  generalize (interval number).low = lowEnd at *
  generalize (interval number).high = highEnd at *
  generalize (interval number).closed = isClosed at *
  generalize decimal.coefficient * Nat.pow 10 decimal.exponent.toNat *
    (interval number).unitDenominator = scaled at *
  generalize Nat.pow 10 (-decimal.exponent).toNat *
    (interval number).unitNumerator = unit at *
  have lowLe : lowEnd * unit ≤ scaled ↔
      number.mantissa - number.lowerGap ≤
        decimal.value / 2 ^ number.exponent := by
    rw [← @Nat.cast_le ℚ, Nat.cast_mul, ← le_div_iff₀ unitPos, ratio, low]
    exact mul_le_mul_iff_right₀ (by norm_num)
  have lowLt : lowEnd * unit < scaled ↔
      number.mantissa - number.lowerGap <
        decimal.value / 2 ^ number.exponent := by
    rw [← @Nat.cast_lt ℚ, Nat.cast_mul, ← lt_div_iff₀ unitPos, ratio, low]
    exact mul_lt_mul_iff_right₀ (by norm_num)
  have highLe : scaled ≤ highEnd * unit ↔
      decimal.value / 2 ^ number.exponent ≤ number.mantissa + 1 / 2 := by
    rw [← @Nat.cast_le ℚ, Nat.cast_mul, ← div_le_iff₀ unitPos, ratio, high]
    exact mul_le_mul_iff_right₀ (by norm_num)
  have highLt : scaled < highEnd * unit ↔
      decimal.value / 2 ^ number.exponent < number.mantissa + 1 / 2 := by
    rw [← @Nat.cast_lt ℚ, Nat.cast_mul, ← div_lt_iff₀ unitPos, ratio, high]
    exact mul_lt_mul_iff_right₀ (by norm_num)
  split_ifs with even
  · rw [closed] at even
    rw [lowLe, highLe]
    exact ⟨fun ⟨lower, upper⟩ => ⟨lower, upper, by omega⟩,
      fun rounds => ⟨rounds.lower, rounds.upper⟩⟩
  · rw [closed] at even
    rw [lowLt, highLt]
    exact ⟨fun ⟨lower, upper⟩ => ⟨lower.le, upper.le, fun _ => ⟨lower, upper⟩⟩,
      fun rounds => rounds.strict (by omega)⟩

/-- Only decimals of the interval are candidates. -/
theorem holds_of_candidate?
    {range : Interval}
    {tie : Tie}
    {leading : Int}
    {count : Nat}
    {decimal : Decimal}
    (found : range.candidate? tie leading count = some decimal) :
    range.holds decimal = true := by
  simp only [candidate?] at found
  split at found
  next below above =>
    cases found
    split_ifs
    · exact above
    · exact below
  next below above =>
    cases found
    exact below
  next below above =>
    cases found
    exact above
  next => cases found

/-- The exact place of a number on a decimal grid, as `candidate?` forms it. -/
theorem magnitude_on_grid
    (number : Binary64)
    (exponent : Int) :
    (((interval number).value * (interval number).unitNumerator *
          Nat.pow 10 (-exponent).toNat : Nat) : ℚ) /
        (((interval number).unitDenominator *
            Nat.pow 10 exponent.toNat : Nat) : ℚ) =
      number.mantissa * 2 ^ number.exponent / 10 ^ exponent := by
  have grid := Decimal.ratio_eq_value ⟨1, exponent⟩
  have unit := Binary64.scaledQuotient_eq 1 1 (2 - number.exponent)
  rw [Int.neg_sub, zpow_sub₀ two_ne_zero] at unit
  simp only [Decimal.value, Nat.cast_one, one_mul, div_one] at grid unit
  rw [one_div, inv_div] at unit
  rw [← grid,
    show (2 : ℚ) ^ number.exponent =
      4 * (2 ^ number.exponent / 2 ^ (2 : Int)) by norm_num; ring,
    ← unit]
  simp only [interval, Nat.pow_eq]
  push_cast
  field_simp

/-- A value strictly between the ends of the interval rounds to the number. -/
theorem roundsTo_of_between
    {number : Binary64}
    {value : ℚ}
    (lower : number.mantissa - number.lowerGap < value / 2 ^ number.exponent)
    (upper : value / 2 ^ number.exponent < number.mantissa + 1 / 2) :
    Binary64.RoundsTo value number :=
  ⟨lower.le, upper.le, fun _ => ⟨lower, upper⟩⟩

/--
A grid at least as fine as the interval is wide has a point in it
next to the number.
-/
theorem roundsTo_of_grid
    {number : Binary64}
    {grid : ℚ}
    {coefficient : Nat}
    (fine : grid < (1 / 2 + number.lowerGap) * 2 ^ number.exponent)
    (below : coefficient * grid ≤ number.mantissa * 2 ^ number.exponent)
    (above : number.mantissa * 2 ^ number.exponent < (coefficient + 1) * grid) :
    Binary64.RoundsTo (coefficient * grid) number ∨
      Binary64.RoundsTo ((coefficient + 1) * grid) number := by
  have unitPos : (0 : ℚ) < 2 ^ number.exponent := by positivity
  have gapPos : 0 < number.lowerGap := by
    unfold Binary64.lowerGap
    split_ifs <;> norm_num
  by_cases near :
      number.mantissa - number.lowerGap <
        coefficient * grid / 2 ^ number.exponent
  · refine .inl (roundsTo_of_between near ?_)
    rw [div_lt_iff₀ unitPos]
    linarith
  · refine .inr (roundsTo_of_between ?_ ?_)
    · rw [lt_div_iff₀ unitPos]
      nlinarith
    · rw [not_lt, div_le_iff₀ unitPos] at near
      rw [div_lt_iff₀ unitPos]
      linarith

/--
The interval is wider than one part in ten to the sixteenth of the number.
-/
theorem mantissa_lt_width
    {number : Binary64}
    (canonical : number.IsCanonical) :
    (number.mantissa : ℚ) < (1 / 2 + number.lowerGap) * 10 ^ (16 : Int) := by
  unfold Binary64.lowerGap
  split_ifs with isPower
  · rw [isPower.1]
    norm_num [Binary64.leastFullMantissa]
  · calc (number.mantissa : ℚ) < 2 ^ (53 : Int) := by
          linarith [canonical.mantissa_add_one_le]
      _ ≤ (1 / 2 + 1 / 2) * 10 ^ (16 : Int) := by norm_num

/-- Seventeen digits are enough to come into the interval. -/
theorem candidate?_seventeen_isSome
    {number : Binary64}
    (canonical : number.IsCanonical)
    (nonzero : 0 < number.mantissa)
    (tie : Tie)
    {leading : Int}
    (reached : (10 : ℚ) ^ leading ≤ number.mantissa * 2 ^ number.exponent) :
    ((interval number).candidate? tie leading 17).isSome := by
  have unitPos : (0 : ℚ) < 2 ^ number.exponent := by positivity
  have gridPos : (0 : ℚ) < 10 ^ (leading - 16) := by positivity
  have grid := magnitude_on_grid number (leading - 16)
  have scalePos :
      0 < (interval number).unitDenominator *
        Nat.pow 10 (leading - 16).toNat := by
    simp only [interval, Nat.pow_eq]
    positivity
  simp only [candidate?, Nat.reduceSub, Nat.cast_ofNat]
  generalize (interval number).value * (interval number).unitNumerator *
    Nat.pow 10 (-(leading - 16)).toNat = scaled at *
  generalize (interval number).unitDenominator *
    Nat.pow 10 (leading - 16).toNat = unit at *
  have scalePos' : (0 : ℚ) < unit := by exact_mod_cast scalePos
  rw [div_eq_div_iff scalePos'.ne' gridPos.ne'] at grid
  -- the number lies between the two neighbouring grid points
  have below : ((scaled / unit : Nat) : ℚ) * 10 ^ (leading - 16) ≤
      number.mantissa * 2 ^ number.exponent := by
    have : ((scaled / unit : Nat) : ℚ) * unit ≤ scaled := by
      exact_mod_cast Nat.div_mul_le_self scaled unit
    nlinarith
  have above : number.mantissa * 2 ^ number.exponent <
      (((scaled / unit : Nat) : ℚ) + 1) * 10 ^ (leading - 16) := by
    have : (scaled : ℚ) < (((scaled / unit : Nat) : ℚ) + 1) * unit := by
      exact_mod_cast Nat.lt_mul_of_div_lt (Nat.lt_succ_self _) scalePos
    nlinarith
  have fine : (10 : ℚ) ^ (leading - 16) <
      (1 / 2 + number.lowerGap) * 2 ^ number.exponent := by
    have spread :
        (10 : ℚ) ^ leading = 10 ^ (leading - 16) * 10 ^ (16 : Int) := by
      rw [← zpow_add₀ (by norm_num), Int.sub_add_cancel]
    rw [spread] at reached
    have := mul_lt_mul_of_pos_right (mantissa_lt_width canonical) unitPos
    nlinarith
  rcases roundsTo_of_grid fine below above with holdsBelow | holdsAbove
  · have :=
      (holds_interval_iff nonzero ⟨scaled / unit, leading - 16⟩).2 holdsBelow
    rw [this]
    split <;> simp_all
  · have := (holds_interval_iff nonzero ⟨scaled / unit + 1, leading - 16⟩).2
      (by
        simpa only [Decimal.value, Nat.cast_add, Nat.cast_one] using holdsAbove)
    rw [this]
    split <;> simp_all

/-- The shortest decimal of a number rounds to it. -/
theorem shortest_roundsTo
    {number : Binary64}
    (canonical : number.IsCanonical)
    (nonzero : 0 < number.mantissa)
    (tie : Tie) :
    Binary64.RoundsTo ((interval number).shortest tie).value number := by
  rw [← holds_interval_iff nonzero]
  have scaledPos :
      0 < (interval number).value * (interval number).unitNumerator := by
    simp only [interval, Nat.pow_eq]
    positivity
  have unitPos : 0 < (interval number).unitDenominator := by
    simp only [interval, Nat.pow_eq]
    positivity
  have reached := pow_floorLog10_le scaledPos unitPos
  have exact := magnitude_on_grid number 0
  simp only [Int.neg_zero, Int.toNat_zero, Nat.pow_zero, Nat.mul_one, zpow_zero,
    div_one, Nat.pow_eq] at exact
  rw [exact] at reached
  obtain ⟨decimal, found⟩ := Option.isSome_iff_exists.1
    (candidate?_seventeen_isSome canonical nonzero tie reached)
  simp only [shortest]
  split
  next decimal first =>
    obtain ⟨count, -, isCandidate⟩ := List.exists_of_findSome?_eq_some first
    exact holds_of_candidate? isCandidate
  next none =>
    rw [List.findSome?_eq_none_iff] at none
    have := none 17 (by decide)
    rw [this] at found
    cases found

end Interval

end Digits

/-! Digits as text. -/

namespace Decimal

/--
The value of two runs of digits is that of the first, shifted, and that of the
second.
-/
theorem ofDigits_append (left right : List Char) :
    ofDigits (left ++ right) =
      ofDigits left * 10 ^ right.length + ofDigits right := by
  have append : Nat.ofDigitChars 10 (left ++ right) 0 =
      Nat.ofDigitChars 10 right (Nat.ofDigitChars 10 left 0) :=
    Nat.ofDigitChars_append 0
  have shifted : Nat.ofDigitChars 10 right (Nat.ofDigitChars 10 left 0) =
      10 ^ right.length * Nat.ofDigitChars 10 left 0 +
        Nat.ofDigitChars 10 right 0 :=
    Nat.ofDigitChars_eq_ofDigitChars_zero
  rw [shifted, Nat.mul_comm] at append
  exact append

theorem ofDigits_zeros (count : Nat) : ofDigits (Digits.zeros count) = 0 :=
  Nat.ofDigitChars_replicate_zero

theorem ofDigits_toDigits (number : Nat) :
    ofDigits (Nat.toDigits 10 number) = number :=
  Nat.ofDigitChars_ten_toDigits

/--
The text of an integer is the digits of its magnitude behind a
minus if it has one.
-/
theorem toList_toString (value : Int) :
    (toString value).toList =
      if value < 0 then
        '-' :: Nat.toDigits 10 value.natAbs
      else
        Nat.toDigits 10 value.natAbs := by
  cases value with
  | ofNat magnitude =>
    rw [if_neg (by simp)]
    change (Nat.repr magnitude).toList = Nat.toDigits 10 magnitude
    rw [Nat.repr_eq_ofList_toDigits, String.toList_ofList]
  | negSucc magnitude =>
    rw [if_pos (Int.negSucc_lt_zero magnitude)]
    change ("-" ++ Nat.repr (magnitude + 1)).toList =
      '-' :: Nat.toDigits 10 (magnitude + 1)
    rw [Nat.repr_eq_ofList_toDigits, String.toList_append, String.toList_ofList,
      String.toList_ofList]
    rfl

/-- A text of digits is one run of digits. -/
theorem takeWhile_digits
    {text : List Char}
    (digits : ∀ symbol ∈ text, symbol.isDigit = true) :
    text.takeWhile Char.isDigit = text ∧ text.dropWhile Char.isDigit = [] :=
  ⟨List.takeWhile_eq_self_iff.2 digits, List.dropWhile_eq_nil_iff.2 digits⟩

/-- Digits alone are read as an integer. -/
theorem read?_whole
    {whole : List Char}
    (nonempty : whole ≠ [])
    (digits : ∀ symbol ∈ whole, symbol.isDigit = true) :
    read? whole = some ⟨ofDigits whole, 0⟩ := by
  obtain ⟨taken, dropped⟩ := takeWhile_digits digits
  simp [read?, taken, dropped, splitFraction, readExponent?, nonempty]

/-- Digits around a point are read with the places after the point counted. -/
theorem read?_point
    {whole fraction : List Char}
    (nonempty : whole ≠ [])
    (wholeDigits : ∀ symbol ∈ whole, symbol.isDigit = true)
    (fractionDigits : ∀ symbol ∈ fraction, symbol.isDigit = true) :
    read? (whole ++ '.' :: fraction) =
      some ⟨ofDigits (whole ++ fraction), -(fraction.length : Int)⟩ := by
  obtain ⟨taken, dropped⟩ := takeWhile_digits fractionDigits
  have point : ('.' : Char).isDigit = false := by decide
  simp [read?, List.takeWhile_append_of_pos wholeDigits,
    List.dropWhile_append_of_pos wholeDigits, point, splitFraction, taken,
    dropped, readExponent?, nonempty]

/-- A digit at the front is no sign. -/
theorem splitSign_of_isDigit
    {text : List Char}
    (digit : ∃ first ∈ text.head?, first.isDigit = true) :
    splitSign text = (false, text) := by
  obtain ⟨first, isFirst, digit⟩ := digit
  unfold splitSign
  split
  next =>
    cases isFirst
    exact absurd digit (by decide)
  next =>
    cases isFirst
    exact absurd digit (by decide)
  next => rfl

end Decimal

namespace Digits

/-- The rational that digits stand for. -/
def value (number : Digits) : ℚ :=
  Decimal.ofDigits number.digits * 10 ^
    (number.exponent + 1 - number.digits.length)

/--
A list is what is left of it after its last symbols other than zero, and zeros.
-/
theorem exists_stripped_append_zeros (digits : List Char) :
    ∃ count, digits =
      (digits.reverse.dropWhile (· == '0')).reverse ++ zeros count := by
  have split : digits.reverse =
      digits.reverse.takeWhile (· == '0') ++
        digits.reverse.dropWhile (· == '0') :=
    List.takeWhile_append_dropWhile.symm
  have allZero : digits.reverse.takeWhile (· == '0') =
      zeros (digits.reverse.takeWhile (· == '0')).length := by
    refine List.eq_replicate_iff.2 ⟨rfl, fun symbol member => ?_⟩
    have isZero := List.mem_takeWhile_imp member
    exact beq_iff_eq.1 isZero
  refine ⟨(digits.reverse.takeWhile (· == '0')).length, ?_⟩
  calc digits = digits.reverse.reverse := by rw [List.reverse_reverse]
    _ = (zeros (digits.reverse.takeWhile (· == '0')).length ++
          digits.reverse.dropWhile (· == '0')).reverse := by
            rw [← allZero, ← split]
    _ = _ := by rw [List.reverse_append, zeros, List.reverse_replicate]

/-- Dropping trailing zeros keeps the value. -/
theorem value_ofDecimal (decimal : Decimal) :
    (ofDecimal decimal).value = decimal.value := by
  obtain ⟨count, split⟩ :=
    exists_stripped_append_zeros (Nat.toDigits 10 decimal.coefficient)
  have written := Decimal.ofDigits_toDigits decimal.coefficient
  have length := congrArg List.length split
  rw [split, Decimal.ofDigits_append, Decimal.ofDigits_zeros] at written
  simp only [value, ofDecimal, Decimal.value, zeros, List.length_append,
    List.length_replicate, Nat.add_zero] at *
  generalize (List.dropWhile (· == '0')
    (Nat.toDigits 10 decimal.coefficient).reverse).reverse =
    stripped at *
  rw [length, ← written, Nat.cast_mul, Nat.cast_pow, Nat.cast_ofNat,
    ← zpow_natCast, mul_assoc, ← zpow_add₀ (by norm_num)]
  congr 2
  omega

theorem isDigit_of_mem_ofDecimal
    {decimal : Decimal}
    {symbol : Char}
    (member : symbol ∈ (ofDecimal decimal).digits) :
    symbol.isDigit = true := by
  simp only [ofDecimal, List.mem_reverse] at member
  have inDigits : symbol ∈ Nat.toDigits 10 decimal.coefficient :=
    List.mem_reverse.1 ((List.dropWhile_sublist _).subset member)
  exact Nat.isDigit_of_mem_toDigits (by decide) (by decide) inDigits

theorem isDigit_of_mem_zeros
    {count : Nat}
    {symbol : Char}
    (member : symbol ∈ zeros count) :
    symbol.isDigit = true := by
  rw [List.eq_of_mem_replicate member]
  decide

/-- The positional text of digits has their value. -/
theorem read?_positional
    {number : Digits}
    (nonempty : number.digits ≠ [])
    (digits : ∀ symbol ∈ number.digits, symbol.isDigit = true) :
    ∃ decimal, Decimal.read? number.positional = some decimal ∧
      decimal.value = number.value := by
  have lengthPos : 0 < number.digits.length := List.length_pos_iff.2 nonempty
  simp only [positional]
  split_ifs with fractional integral
  · -- the point stands before all digits
    have fraction :
        ∀ symbol ∈ zeros (-number.exponent - 1).toNat ++ number.digits,
        symbol.isDigit = true := by
      intro symbol member
      rcases List.mem_append.1 member with zero | digit
      · exact isDigit_of_mem_zeros zero
      · exact digits symbol digit
    have read := Decimal.read?_point (List.cons_ne_nil '0' [])
      (List.forall_mem_singleton.2 rfl) fraction
    refine ⟨_, read, ?_⟩
    rw [← List.append_assoc, Decimal.ofDigits_append,
      show ['0'] ++ zeros (-number.exponent - 1).toNat =
        zeros ((-number.exponent - 1).toNat + 1)
          from rfl, Decimal.ofDigits_zeros]
    simp only [Decimal.value, value, Nat.zero_mul, Nat.zero_add, zeros,
      List.length_append, List.length_replicate]
    congr 2
    omega
  · -- the point stands after all digits
    refine ⟨_, Decimal.read?_whole (by simp [nonempty]) ?_, ?_⟩
    · intro symbol member
      rcases List.mem_append.1 member with digit | zero
      · exact digits symbol digit
      · exact isDigit_of_mem_zeros zero
    · rw [Decimal.ofDigits_append, Decimal.ofDigits_zeros]
      simp only [Decimal.value, value, zeros, List.length_replicate,
        Nat.add_zero, zpow_zero, mul_one, Nat.cast_mul, Nat.cast_pow,
        Nat.cast_ofNat]
      rw [← zpow_natCast]
      congr 2
      omega
  · -- the point stands among the digits
    have split :=
      List.take_append_drop (number.exponent + 1).toNat number.digits
    refine ⟨_, Decimal.read?_point ?_ ?_ ?_, ?_⟩
    · simp only [ne_eq, List.take_eq_nil_iff, not_or]
      exact ⟨by omega, nonempty⟩
    · exact fun symbol member => digits symbol (List.mem_of_mem_take member)
    · exact fun symbol member => digits symbol (List.mem_of_mem_drop member)
    · rw [split]
      simp only [Decimal.value, value, List.length_drop]
      congr 2
      omega

/-- A number in positions begins with a digit. -/
theorem head?_positional_isDigit
    {number : Digits}
    (nonempty : number.digits ≠ [])
    (digits : ∀ symbol ∈ number.digits, symbol.isDigit = true) :
    ∃ first ∈ number.positional.head?, first.isDigit = true := by
  obtain ⟨first, rest, form⟩ := List.exists_cons_of_ne_nil nonempty
  have firstDigit := digits first (by simp [form])
  simp only [positional]
  split_ifs with fractional integral
  · exact ⟨'0', rfl, by decide⟩
  · exact ⟨first, by simp [form], firstDigit⟩
  · obtain ⟨place, isPlace⟩ : ∃ place : Nat,
        (number.exponent + 1).toNat = place + 1 :=
      ⟨number.exponent.toNat, by omega⟩
    exact ⟨first, by simp [form, isPlace], firstDigit⟩

end Digits

namespace Digits

/-- The value of the shortest digits of a number rounds to it. -/
theorem value_shortest_roundsTo
    {number : Binary64}
    (canonical : number.IsCanonical)
    (nonzero : 0 < number.mantissa)
    (tie : Tie) :
    Binary64.RoundsTo (shortest tie number).value number := by
  rw [shortest, value_ofDecimal]
  exact Interval.shortest_roundsTo canonical nonzero tie

/-- The shortest form has a digit. -/
theorem shortest_digits_ne_nil
    {number : Binary64}
    (canonical : number.IsCanonical)
    (nonzero : 0 < number.mantissa)
    (tie : Tie) :
    (shortest tie number).digits ≠ [] := by
  intro none
  have := (value_shortest_roundsTo canonical nonzero tie).pos nonzero
  simp [value, none, Decimal.ofDigits] at this

/-- The shortest form consists of digits. -/
theorem isDigit_of_mem_shortest
    {tie : Tie}
    {number : Binary64} :
    ∀ symbol ∈ (shortest tie number).digits, symbol.isDigit = true :=
  fun _ => isDigit_of_mem_ofDecimal

end Digits

namespace Binary64

/-- The shortest text of a number is read as the number. -/
theorem read?_numberText
    {number : Binary64}
    (canonical : number.IsCanonical) :
    read? (Numeral.numberText number).toList = some number := by
  have magnitude :
      ∃ decimal, Decimal.read? (if number.mantissa = 0 then ['0'] else
            (Digits.shortest .up number).positional) = some decimal ∧
          decimal.toBinary64 number.negative = some number ∧
        ∃ first ∈ (if number.mantissa = 0 then ['0'] else
          (Digits.shortest .up number).positional).head?,
          first.isDigit = true := by
    split_ifs with isZero
    · refine ⟨⟨0, 0⟩, by decide, ?_, '0', rfl, by decide⟩
      rw [canonical.eq_zero isZero]
      rfl
    · have nonzero : 0 < number.mantissa := by omega
      have nonempty := Digits.shortest_digits_ne_nil canonical nonzero .up
      obtain ⟨decimal, read, sameValue⟩ :=
        Digits.read?_positional nonempty Digits.isDigit_of_mem_shortest
      refine ⟨decimal, read, ?_,
        Digits.head?_positional_isDigit nonempty Digits.isDigit_of_mem_shortest⟩
      apply Decimal.toBinary64_eq_of_roundsTo canonical nonzero
      rw [sameValue]
      exact Digits.value_shortest_roundsTo canonical nonzero .up
  obtain ⟨decimal, read, isNumber, startsWithDigit⟩ := magnitude
  simp only [Numeral.numberText, String.toList_ofList, Binary64.read?]
  cases negative : number.negative with
  | true =>
    simp only [if_true, Decimal.splitSign, read, Option.bind_some]
    rw [← negative, isNumber]
  | false =>
    simp only [Bool.false_eq_true, if_false]
    rw [Decimal.splitSign_of_isDigit startsWithDigit, read, Option.bind_some,
      ← negative, isNumber]

end Binary64

end Eisen
