/-!
# Powers and bounds

The powers by which numbers are scaled, and the bounds of the numbers of 32 and 64
bits that pages and programs exchange.
-/

namespace QuickFill

def twoPow (exponent : Nat) : Nat :=
  Nat.pow 2 exponent

def tenPow (exponent : Nat) : Nat :=
  Nat.pow 10 exponent

def leastInt32 : Int := -2147483648

def greatestInt32 : Int := 2147483647

def leastInt64 : Int := -9223372036854775808

def greatestInt64 : Int := 9223372036854775807

def greatestNat32 : Nat := 4294967295

def greatestNat64 : Nat := 18446744073709551615

/-- An integer held between the 32-bit bounds. -/
def clampInt32 (number : Int) : Int :=
  max leastInt32 (min greatestInt32 number)

end QuickFill
