import QuickFill.Number.Overflow

/-!
# Numbers that are not too large

A whole number of 64 bits can be read in double precision.  Its rounding stays below a
small power of two, and a double overflows far above that.
-/

namespace QuickFill

namespace Double

theorem log2_le_of_lt {number length : Nat} (short : number < twoPow (length + 1)) :
    number.log2 ≤ length := by
  by_cases zero : number = 0
  · rw [zero]
    exact Nat.zero_le length
  · exact Nat.le_of_lt_succ ((Nat.log2_lt zero).mpr short)

/-- The exponent of a ratio is bounded by the number of binary digits above its line. -/
theorem unitExponent_le (numerator denominator : Nat) :
    unitExponent numerator denominator ≤ max ((numerator.log2 : Int) - 52) leastExponent := by
  rw [unitExponent]
  simp only
  split <;> omega

/-- A ratio overflows only when there are very many digits above its line. -/
theorem isInfinite_ofRatio {numerator : Nat} (short : numerator.log2 ≤ 200) (negative : Bool)
    (denominator : Nat) : (ofRatio negative numerator denominator).isInfinite = false := by
  have small := unitExponent_le numerator denominator
  rw [leastExponent] at small
  rw [ofRatio]
  split
  · rfl
  · simp only
    rw [if_neg (by omega)]
    rfl

theorem roundHalfEven_le (numerator denominator : Nat) :
    roundHalfEven numerator denominator ≤ numerator / denominator + 1 := by
  rw [roundHalfEven]
  have parity := Nat.mod_lt (numerator / denominator) (by decide : 0 < 2)
  split
  · omega
  · split <;> omega

/-- Rounding a whole number of 64 bits adds little to it. -/
theorem wholePart_ofRatio_le {number mantissa : Nat} {exponent : Int} {negative : Bool}
    (short : number.log2 ≤ 63)
    (rounded : ofRatio false number 1 = .finite negative mantissa exponent) :
    wholePart mantissa exponent ≤ number + twoPow 11 := by
  have small := unitExponent_le number 1
  rw [leastExponent] at small
  rw [ofRatio] at rounded
  split at rounded
  · obtain ⟨-, rfl, rfl⟩ := Double.finite.inj rounded
    exact Nat.zero_le _
  · simp only at rounded
    split at rounded
    · cases rounded
    · obtain ⟨-, rfl, rfl⟩ := Double.finite.inj rounded
      generalize unitExponent number 1 = exponent at small
      rw [wholePart, inUnits]
      have units : 0 < twoPow exponent.natAbs := Nat.pow_pos (by decide)
      by_cases below : exponent < 0
      · simp only [if_pos below]
        have bound := roundHalfEven_le (number * twoPow exponent.natAbs) 1
        rw [Nat.div_one] at bound
        have rounded : number * twoPow exponent.natAbs + 1 ≤
            twoPow exponent.natAbs * (number + 1) := by
          rw [Nat.mul_add, Nat.mul_comm number]
          omega
        have nearby := Nat.div_le_of_le_mul (Nat.le_trans bound rounded)
        exact Nat.le_trans nearby (Nat.add_le_add_left (by decide) number)
      · simp only [if_neg below]
        have bound := roundHalfEven_le number (1 * twoPow exponent.natAbs)
        have fewUnits : twoPow exponent.natAbs ≤ twoPow 11 :=
          Nat.pow_le_pow_right (by decide) (by omega)
        rw [Nat.one_mul] at bound ⊢
        have nearby := Nat.mul_le_mul_right (twoPow exponent.natAbs) bound
        have floor := Nat.div_mul_le_self number (twoPow exponent.natAbs)
        rw [Nat.add_mul, Nat.one_mul] at nearby
        omega

theorem overflows_eq_false {number : Nat} (within : number ≤ greatestNat64) :
    overflows number 0 = false := by
  have short : number.log2 ≤ 63 := log2_le_of_lt (Nat.lt_of_le_of_lt within (by decide))
  have finite := isInfinite_ofRatio (Nat.le_trans short (by decide)) false 1
  have one : ofRatio false (tenPow 0) 1 = .finite false (twoPow 52) (-52) := by decide
  rw [overflows]
  cases rounded : ofRatio false number 1 with
  | infinite negative =>
      rw [rounded] at finite
      cases finite
  | finite negative mantissa exponent =>
      have bound := wholePart_ofRatio_le short rounded
      simp only [one, scale]
      rw [if_pos (by decide)]
      apply isInfinite_ofRatio
      apply log2_le_of_lt
      have small : wholePart mantissa exponent ≤ greatestNat64 + twoPow 11 := by omega
      exact Nat.lt_of_le_of_lt (Nat.mul_le_mul_left _ small) (by decide)

end Double

namespace Decimal

/-- A whole number of 64 bits is not too large. -/
theorem isTooLarge_eq_false {digits : Nat} (within : digits ≤ greatestNat64) (negative : Bool) :
    isTooLarge ⟨negative, digits, 0⟩ = false := by
  rw [isTooLarge, leading, if_pos within]
  exact Double.overflows_eq_false within

end Decimal

end QuickFill
