/-!
# Decimal digits

Reading and writing whole numbers in decimal.  A numeral is read strictly: the
first character that cannot belong to it, or the first digit that takes it past
its limit, decides which fault is reported.
-/

namespace QuickFill

namespace Text

/-- The longest run of decimal digits at the start of a text. -/
def leadingDigits (text : List Char) : List Char :=
  text.takeWhile Char.isDigit

def afterDigits (text : List Char) : List Char :=
  text.dropWhile Char.isDigit

theorem leadingDigits_append_afterDigits (text : List Char) :
    leadingDigits text ++ afterDigits text = text :=
  List.takeWhile_append_dropWhile

/-- The number that a run of decimal digits denotes. -/
def digitsValue (digits : List Char) : Nat :=
  Nat.ofDigitChars 10 digits 0

/-- A natural number in decimal, without leading zeros. -/
def decimal (number : Nat) : List Char :=
  Nat.toDigits 10 number

@[simp]
theorem digitsValue_decimal (number : Nat) :
    digitsValue (decimal number) = number :=
  Nat.ofDigitChars_toDigits (by decide) (by decide)

theorem isDigit_of_mem_decimal {number : Nat} {character : Char}
    (member : character ∈ decimal number) : character.isDigit = true :=
  Nat.isDigit_of_mem_toDigits (by decide) (by decide) member

def padLeft (width : Nat) (fill : Char) (text : List Char) : List Char :=
  List.replicate (width - text.length) fill ++ text

/-- A natural number in at least `width` digits. -/
def zeroPadded (width number : Nat) : List Char :=
  padLeft width '0' (decimal number)

/-- Why a text is not a numeral of the wanted range. -/
inductive NumeralFault where
  | empty
  | invalidDigit
  | tooLarge
  | tooSmall
  deriving DecidableEq, Repr

def NumeralFault.message : NumeralFault → String
  | .empty => "cannot parse integer from empty string"
  | .invalidDigit => "invalid digit found in string"
  | .tooLarge => "number too large to fit in target type"
  | .tooSmall => "number too small to fit in target type"

/-- Read the digits of a numeral up to a limit; `overflow` is the fault past it. -/
def readDigits (limit : Nat) (overflow : NumeralFault) (text : List Char) :
    Except NumeralFault Nat :=
  let digits := leadingDigits text
  if digits.isEmpty then .error .invalidDigit
  else if limit < digitsValue digits then .error overflow
  else if (afterDigits text).isEmpty then .ok (digitsValue digits)
  else .error .invalidDigit

/-- Read a natural number of at most `limit`, with an optional plus sign. -/
def readNatural (limit : Nat) : List Char → Except NumeralFault Nat
  | [] => .error .empty
  | '+' :: rest => readDigits limit .tooLarge rest
  | text => readDigits limit .tooLarge text

/-- Read an integer between `-lower` and `upper`, with an optional sign. -/
def readInteger (lower upper : Nat) : List Char → Except NumeralFault Int
  | [] => .error .empty
  | '+' :: rest => (readDigits upper .tooLarge rest).map Int.ofNat
  | '-' :: rest => (readDigits lower .tooSmall rest).map fun number => -(number : Int)
  | text => (readDigits upper .tooLarge text).map Int.ofNat

end Text

end QuickFill
