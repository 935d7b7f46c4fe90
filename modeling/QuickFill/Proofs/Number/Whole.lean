import QuickFill.Proofs.Number.Numeral
import QuickFill.Proofs.Number.Overflow

/-!
# Whole numbers in double precision

Whatever numeral denotes a whole number of 32 bits, the double that is nearest to it is that
whole number.  Neither the number of its digits nor its exponent matters, as long as together
they come to the same value.
-/

namespace QuickFill

namespace Double

/-- A double that is a whole number, with a sign that a zero has, too. -/
def IsWholeNumber (negative : Bool) (number : Nat) : Double → Prop
  | .finite sign mantissa exponent =>
    sign = negative ∧ wholePart mantissa exponent = number ∧ isWhole mantissa exponent = true
  | .infinite _ => False

variable {negative : Bool} {number denominator : Nat} {double : Double}

theorem magnitudeAtMost_whole (whole : double.IsWholeNumber negative number) (bound : Nat) :
    double.magnitudeAtMost bound = decide (number ≤ bound) := by
  cases double with
  | infinite sign => exact whole.elim
  | finite sign mantissa exponent =>
      obtain ⟨-, partEq, isWhole⟩ := whole
      unfold magnitudeAtMost
      rw [Bool.eq_iff_iff]
      simp only [partEq, isWhole, Bool.and_true, Bool.or_eq_true, beq_iff_eq, decide_eq_true_eq]
      omega

theorem truncate_whole (whole : double.IsWholeNumber negative number) (least greatest : Int) :
    double.truncate least greatest =
      max least (min greatest (if negative then -(number : Int) else number)) := by
  cases double with
  | infinite sign => exact whole.elim
  | finite sign mantissa exponent =>
      obtain ⟨rfl, partEq, -⟩ := whole
      unfold truncate
      simp only [partEq]

theorem roundHalfEven_mul (number : Nat) (positive : 0 < denominator) :
    roundHalfEven (number * denominator) denominator = number := by
  unfold roundHalfEven
  simp only [Nat.mul_mod_left, Nat.mul_zero, Nat.mul_div_cancel _ positive, if_pos positive]

/-- A small quotient has many binary places after its point. -/
theorem unitExponent_mul_neg (some : number ≠ 0) (short : number < twoPow 32)
    (positive : 0 < denominator) : unitExponent (number * denominator) denominator < 0 := by
  have nonzero : number * denominator ≠ 0 := Nat.mul_ne_zero some (Nat.ne_of_gt positive)
  have product : number * denominator < 2 ^ (32 + (denominator.log2 + 1)) := by
    rw [Nat.pow_add]
    exact Nat.mul_lt_mul'' short Nat.lt_log2_self
  have bits := (Nat.log2_lt nonzero).mpr product
  unfold unitExponent leastExponent
  simp only
  split <;> omega

/-- A quotient without remainder is rounded to itself. -/
theorem ofRatio_mul (negative : Bool) (short : number < twoPow 32) (positive : 0 < denominator) :
    (ofRatio negative (number * denominator) denominator).IsWholeNumber negative number := by
  by_cases zero : number = 0
  · subst zero
    rw [Nat.zero_mul]
    exact ⟨rfl, rfl, rfl⟩
  · have nonzero : number * denominator ≠ 0 := Nat.mul_ne_zero zero (Nat.ne_of_gt positive)
    have below := unitExponent_mul_neg zero short positive
    generalize exponentEq : unitExponent (number * denominator) denominator = exponent at below
    have units : 0 < twoPow exponent.natAbs := Nat.pow_pos (by decide)
    -- The division leaves no remainder in any unit, so the rounding has nothing to do.
    have rounded : roundHalfEven (number * denominator * twoPow exponent.natAbs) denominator =
        number * twoPow exponent.natAbs := by
      rw [Nat.mul_right_comm]
      exact roundHalfEven_mul _ positive
    unfold ofRatio
    simp only [if_neg nonzero, exponentEq, inUnits, if_pos below, rounded]
    rw [if_neg (by omega)]
    refine ⟨rfl, ?_, ?_⟩
    · rw [wholePart, if_pos below, Nat.mul_div_cancel _ units]
    · rw [isWhole, if_pos below, Nat.mul_mod_left]
      rfl

/-! ### Decimals -/

theorem tenPow_pos (exponent : Nat) : 0 < tenPow exponent :=
  Nat.pow_pos (by decide)

theorem tenPow_add (left right : Nat) : tenPow (left + right) = tenPow left * tenPow right :=
  Nat.pow_add 10 left right

theorem lt_of_tenPow_lt {left right : Nat} (less : tenPow left < tenPow right) : left < right :=
  (Nat.pow_lt_pow_iff_right (by decide)).mp less

/-- The digits of a decimal, moved by its exponent, are a whole number. -/
def Scales (decimal : Decimal) (number : Nat) : Prop :=
  if decimal.exponent < 0 then decimal.digits = number * tenPow decimal.exponent.natAbs
  else decimal.digits * tenPow decimal.exponent.natAbs = number

/-- The first digit of a number that is not zero is not zero. -/
theorem tenPow_le_of_length {digits length : Nat} (some : digits ≠ 0)
    (lengthEq : (Text.decimal digits).length = length + 1) : tenPow length ≤ digits := by
  cases length with
  | zero => exact Nat.one_le_iff_ne_zero.mpr some
  | succ shorter =>
      apply Nat.le_of_not_lt
      intro small
      have fits := (Nat.length_toDigits_le_iff (by decide) (Nat.succ_pos shorter)).mpr small
      unfold Text.decimal at lengthEq
      omega

/-- The digits of a decimal and its exponent together show how large it is. -/
theorem magnitude_of_scales {decimal : Decimal} (scales : Scales decimal number)
    (nonzero : decimal.digits ≠ 0) (short : number < twoPow 32) :
    0 < (Text.decimal decimal.digits).length + decimal.exponent ∧
      (Text.decimal decimal.digits).length + decimal.exponent ≤ 10 := by
  obtain ⟨length, lengthEq⟩ : ∃ length, (Text.decimal decimal.digits).length = length + 1 :=
    Nat.exists_eq_succ_of_ne_zero (Nat.ne_of_gt Nat.length_toDigits_pos)
  have least := tenPow_le_of_length nonzero lengthEq
  have most : decimal.digits < tenPow (length + 1) :=
    (Nat.length_toDigits_le_iff (by decide) (Nat.succ_pos length)).mp (Nat.le_of_eq lengthEq)
  have few : number < tenPow 10 := Nat.lt_trans short (by decide)
  unfold Scales at scales
  rw [lengthEq]
  split at scales
  · have factor : 0 < number := by
      apply Nat.pos_of_ne_zero
      rintro rfl
      exact nonzero (scales.trans (Nat.zero_mul _))
    have downLt : decimal.exponent.natAbs < length + 1 := by
      apply lt_of_tenPow_lt
      exact Nat.lt_of_le_of_lt (scales ▸ Nat.le_mul_of_pos_left _ factor) most
    have lengthLt : length < 10 + decimal.exponent.natAbs := by
      apply lt_of_tenPow_lt
      rw [tenPow_add]
      rw [scales] at least
      exact Nat.lt_of_le_of_lt least (Nat.mul_lt_mul_of_pos_right few (tenPow_pos _))
    omega
  · have upLt : length + decimal.exponent.natAbs < 10 := by
      apply lt_of_tenPow_lt
      rw [tenPow_add]
      exact Nat.lt_of_le_of_lt (scales ▸ Nat.mul_le_mul_right _ least) few
    omega

/-- The double nearest to a decimal that is a whole number is that number. -/
theorem ofDecimal_scales {decimal : Decimal} (scales : Scales decimal number)
    (short : number < twoPow 32) :
    (ofDecimal decimal).IsWholeNumber decimal.negative number := by
  unfold ofDecimal
  simp only
  by_cases zero : decimal.digits = 0
  · have numberEq : number = 0 := by
      unfold Scales at scales
      rw [zero] at scales
      split at scales
      · exact (Nat.mul_eq_zero.mp scales.symm).resolve_right (Nat.ne_of_gt (tenPow_pos _))
      · exact scales.symm.trans (Nat.zero_mul _)
    rw [if_pos (Or.inl zero), numberEq]
    exact ⟨rfl, rfl, rfl⟩
  · obtain ⟨above, below⟩ := magnitude_of_scales scales zero short
    unfold Scales at scales
    -- Between one and ten digits stand before the point, so neither cutoff applies.
    rw [if_neg (by omega), if_neg (by omega)]
    split at scales
    · next places =>
      rw [if_pos places, scales]
      exact ofRatio_mul _ short (tenPow_pos _)
    · next noPlaces =>
      rw [if_neg noPlaces, scales]
      simpa only [Nat.mul_one] using ofRatio_mul decimal.negative short Nat.one_pos

end Double

namespace Decimal

variable {decimal : Decimal} {number : Int}

/-- The magnitude and the sign of a decimal that denotes an integer. -/
theorem natAbs_of_value (denotes : decimal.value = number) :
    (decimal.digits : ℚ) * 10 ^ decimal.exponent = number.natAbs ∧
      (if decimal.negative then -(number.natAbs : Int) else number.natAbs) = number := by
  have scaled : (0 : ℚ) ≤ decimal.digits * 10 ^ decimal.exponent :=
    mul_nonneg (Nat.cast_nonneg _) (zpow_nonneg (by decide) _)
  have castAbs : ((number.natAbs : Int) : ℚ) = number.natAbs := Int.cast_natCast _
  unfold value at denotes
  cases negative : decimal.negative with
  | true =>
      rw [if_pos negative, neg_mul] at denotes
      have nonpositive : number ≤ 0 := by
        rw [← Int.cast_nonpos (R := ℚ), ← denotes]
        exact neg_nonpos.mpr scaled
      have abs : (number.natAbs : Int) = -number := Int.ofNat_natAbs_of_nonpos nonpositive
      rw [← castAbs, abs, if_pos rfl, Int.neg_neg, Int.cast_neg, ← denotes, neg_neg]
      exact ⟨rfl, rfl⟩
  | false =>
      rw [if_neg (by rw [negative]; decide)] at denotes
      have nonnegative : 0 ≤ number := by
        rw [← Int.cast_nonneg_iff (R := ℚ), ← denotes]
        exact scaled
      have abs : (number.natAbs : Int) = number := Int.natAbs_of_nonneg nonnegative
      rw [← castAbs, abs, if_neg (by decide)]
      exact ⟨denotes, rfl⟩

/-- A decimal that denotes an integer has its digits, moved by the exponent, as magnitude. -/
theorem scales_of_value (denotes : decimal.value = number) :
    Double.Scales decimal number.natAbs := by
  obtain ⟨scaled, -⟩ := natAbs_of_value denotes
  have tens : (10 : ℚ) ≠ 0 := by decide
  unfold Double.Scales tenPow
  split
  · next places =>
    have exponentEq : decimal.exponent = -(decimal.exponent.natAbs : Int) := by omega
    rw [exponentEq, zpow_neg, zpow_natCast, ← div_eq_mul_inv,
      div_eq_iff (pow_ne_zero _ tens)] at scaled
    exact_mod_cast scaled
  · next noPlaces =>
    have exponentEq : decimal.exponent = (decimal.exponent.natAbs : Int) := by omega
    rw [exponentEq, zpow_natCast] at scaled
    exact_mod_cast scaled

end Decimal

end QuickFill
