import QuickFill.Text.Digits

/-!
# Decimal numerals

A numeral with an optional sign, fraction and exponent denotes a whole number of
units of a power of ten.  The reader accepts a text only as a whole.
-/

namespace QuickFill

/-- The number `± digits · 10 ^ exponent`. -/
structure Decimal where
  negative : Bool
  digits : Nat
  exponent : Int
  deriving DecidableEq, Repr

namespace Decimal

open Text

def ofInt (number : Int) : Decimal :=
  ⟨decide (number < 0), number.natAbs, 0⟩

/-- Split an optional sign off a text; `true` stands for minus. -/
def splitSign : List Char → Bool × List Char
  | '-' :: rest => (true, rest)
  | '+' :: rest => (false, rest)
  | text => (false, text)

/-- Split a fraction off a text: the digits after a leading point. -/
def splitFraction : List Char → List Char × List Char
  | '.' :: rest => (leadingDigits rest, afterDigits rest)
  | text => ([], text)

/-- Read the exponent that ends a numeral: nothing, or `e`, a sign and digits. -/
def readExponent? : List Char → Option Int
  | [] => some 0
  | mark :: rest =>
    let (negative, text) := splitSign rest
    let digits := leadingDigits text
    if (mark == 'e' || mark == 'E') && !digits.isEmpty && (afterDigits text).isEmpty then
      some (if negative then -(digitsValue digits : Int) else digitsValue digits)
    else none

/-- Read a numeral: digits with an optional point among or beside them, then an
optional exponent. -/
def read? (text : List Char) : Option Decimal :=
  let (negative, body) := splitSign text
  let whole := leadingDigits body
  let (fraction, rest) := splitFraction (afterDigits body)
  if whole.isEmpty && fraction.isEmpty then none
  else (readExponent? rest).map fun exponent =>
    ⟨negative, digitsValue (whole ++ fraction), exponent - fraction.length⟩

end Decimal

end QuickFill
