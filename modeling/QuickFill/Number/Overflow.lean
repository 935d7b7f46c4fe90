import QuickFill.Number.Double

/-!
# Numbers that are too large

A decimal text is read in double precision from those of its digits that 64 bits
hold.  The digits are rounded, the power of ten is rounded, and so is their
product; a number is too large when that product overflows, which can differ by
a few units in the last place from the overflow of the number itself.
-/

namespace QuickFill

namespace Double

def isInfinite : Double → Bool
  | .infinite _ => true
  | .finite .. => false

/-- Whether a natural number times a power of ten overflows, both rounded first. -/
def overflows (number power : Nat) : Bool :=
  match ofRatio false number 1 with
  | .infinite _ => true
  | .finite _ mantissa exponent =>
    ((ofRatio false (tenPow power) 1).scale (wholePart mantissa exponent)).isInfinite

end Double

namespace Decimal

/-- The leading digits of a number up to a limit, and the exponent that is left to
them. -/
def leading (limit digits : Nat) (exponent : Int) : Nat × Int :=
  if digits ≤ limit then (digits, exponent)
  else leading limit (digits / 10) (exponent + 1)
termination_by digits
decreasing_by omega

theorem leading_fst_le (limit digits : Nat) (exponent : Int) :
    (leading limit digits exponent).1 ≤ limit := by
  fun_induction leading limit digits exponent with
  | case1 digits exponent within => exact within
  | case2 digits exponent _ ih => exact ih

/-- Whether a decimal cannot be read in double precision. -/
def isTooLarge (number : Decimal) : Bool :=
  let (digits, exponent) := leading greatestNat64 number.digits number.exponent
  if exponent < 0 then false
  else if exponent ≤ 308 then Double.overflows digits exponent.natAbs
  else digits != 0

end Decimal

end QuickFill
