import QuickFill.Number.Decimal
import QuickFill.Number.Width

/-!
# Double precision

Numbers of the page pass through the binary format with 53-bit significands.
A double is held as an exact `mantissa · 2 ^ exponent`, and every number is
brought into the format by one rule: round to the nearest double, a tie to the
even mantissa.
-/

namespace QuickFill

/-- A number of the binary format with 53-bit significands, or an overflow. -/
inductive Double where
  | finite (negative : Bool) (mantissa : Nat) (exponent : Int)
  | infinite (negative : Bool)
  deriving DecidableEq, Repr

namespace Double

/-- The exponent of the smallest positive double. -/
def leastExponent : Int := -1074

/-- The quotient rounded to the nearest whole number, a tie to the even one. -/
def roundHalfEven (numerator denominator : Nat) : Nat :=
  let quotient := numerator / denominator
  let twice := 2 * (numerator % denominator)
  if twice < denominator then quotient
  else if denominator < twice then quotient + 1
  else quotient + quotient % 2

/-- A ratio in units of a power of two, as numerator and denominator. -/
def inUnits (numerator denominator : Nat) (exponent : Int) : Nat × Nat :=
  if exponent < 0 then (numerator * twoPow exponent.natAbs, denominator)
  else (numerator, denominator * twoPow exponent.natAbs)

/-- The exponent at which a positive ratio has a 53-bit mantissa, or the least
exponent of the format. -/
def unitExponent (numerator denominator : Nat) : Int :=
  let guess := (numerator.log2 : Int) - denominator.log2 - 53
  let (scaledNumerator, scaledDenominator) := inUnits numerator denominator guess
  let exact := if scaledNumerator / scaledDenominator < twoPow 53 then guess else guess + 1
  max exact leastExponent

def ofRatio (negative : Bool) (numerator denominator : Nat) : Double :=
  if numerator = 0 then .finite negative 0 0
  else
    let exponent := unitExponent numerator denominator
    let (scaledNumerator, scaledDenominator) := inUnits numerator denominator exponent
    let mantissa := roundHalfEven scaledNumerator scaledDenominator
    if 971 < exponent ∨ (exponent = 971 ∧ twoPow 53 ≤ mantissa) then .infinite negative
    else .finite negative mantissa exponent

/-- The double nearest to a decimal.  Magnitudes of `10 ^ 310` and more overflow
and magnitudes below `10 ^ (-330)` vanish whatever their digits. -/
def ofDecimal (number : Decimal) : Double :=
  let magnitude := (Text.decimal number.digits).length + number.exponent
  if number.digits = 0 ∨ magnitude < -330 then .finite number.negative 0 0
  else if 310 < magnitude then .infinite number.negative
  else if number.exponent < 0 then
    ofRatio number.negative number.digits (tenPow number.exponent.natAbs)
  else ofRatio number.negative (number.digits * tenPow number.exponent.natAbs) 1

def scale (factor : Nat) : Double → Double
  | .infinite negative => .infinite negative
  | .finite negative mantissa exponent =>
    if exponent < 0 then ofRatio negative (mantissa * factor) (twoPow exponent.natAbs)
    else ofRatio negative (mantissa * factor * twoPow exponent.natAbs) 1

def negate : Double → Double
  | .infinite negative => .infinite (!negative)
  | .finite negative mantissa exponent => .finite (!negative) mantissa exponent

def wholePart (mantissa : Nat) (exponent : Int) : Nat :=
  if exponent < 0 then mantissa / twoPow exponent.natAbs else mantissa * twoPow exponent.natAbs

def isWhole (mantissa : Nat) (exponent : Int) : Bool :=
  if exponent < 0 then mantissa % twoPow exponent.natAbs == 0 else true

/-- The number without its fraction, held between two bounds. -/
def truncate (least greatest : Int) : Double → Int
  | .infinite negative => if negative then least else greatest
  | .finite negative mantissa exponent =>
    let whole : Int := wholePart mantissa exponent
    max least (min greatest (if negative then -whole else whole))

def whole? : Double → Option Int
  | .infinite _ => none
  | .finite negative mantissa exponent =>
    if isWhole mantissa exponent then
      let whole : Int := wholePart mantissa exponent
      some (if negative then -whole else whole)
    else none

def magnitudeAtMost (bound : Nat) : Double → Bool
  | .infinite _ => false
  | .finite _ mantissa exponent =>
    let whole := wholePart mantissa exponent
    decide (whole < bound) || (whole == bound && isWhole mantissa exponent)

end Double

end QuickFill
