import Mathlib.Algebra.Order.Field.Power
import Mathlib.Algebra.Order.Field.Rat
import Mathlib.Tactic.FieldSimp
import QuickFill.Number.Decimal
import QuickFill.Proofs.Text.Integer

/-!
# Numerals

A numeral is a sign, if there is one, and digits with at most one point among or beside them,
and perhaps an exponent.  The reader of numerals accepts these and nothing else, and what it
reads has the value that the numeral denotes.
-/

namespace QuickFill

open Text

/-- The exponent at the end of a numeral. -/
structure Exponent where
  mark : Char
  sign : Sign
  digits : List Char
  marks : mark = 'e' ∨ mark = 'E'
  digital : IsDigits digits

structure Numeral where
  sign : Sign
  whole : List Char
  /-- The digits after the point, if there is a point. -/
  fraction : Option (List Char)
  exponent : Option Exponent
  digital : IsDigits (whole ++ fraction.getD [])

namespace Numeral

def fractionText : Option (List Char) → List Char
  | some digits => '.' :: digits
  | none => []

def exponentText : Option Exponent → List Char
  | some exponent => exponent.mark :: (exponent.sign.text ++ exponent.digits)
  | none => []

/-- The power of ten that an exponent stands for. -/
def power : Option Exponent → Int
  | some exponent => exponent.sign.apply (digitsValue exponent.digits : Int)
  | none => 0

def text (numeral : Numeral) : List Char :=
  numeral.sign.text ++ (numeral.whole ++
    (fractionText numeral.fraction ++ exponentText numeral.exponent))

/-- The number that a numeral denotes. -/
def value (numeral : Numeral) : ℚ :=
  let places := numeral.fraction.getD []
  numeral.sign.apply
    ((digitsValue numeral.whole + digitsValue places / 10 ^ places.length : ℚ) *
      10 ^ power numeral.exponent)

/-- Whether a numeral has neither a point nor an exponent. -/
def IsPlain (numeral : Numeral) : Prop :=
  numeral.fraction = none ∧ numeral.exponent = none

instance (numeral : Numeral) : Decidable numeral.IsPlain :=
  decidable_of_iff (numeral.fraction.isNone ∧ numeral.exponent.isNone) (by simp [IsPlain])

/-- What a numeral is read as. -/
def decimal (numeral : Numeral) : Decimal where
  negative := numeral.sign == .minus
  digits := digitsValue (numeral.whole ++ numeral.fraction.getD [])
  exponent := power numeral.exponent - (numeral.fraction.getD []).length

end Numeral

/-- The number that a decimal stands for. -/
def Decimal.value (number : Decimal) : ℚ :=
  (if number.negative then -(number.digits : ℚ) else number.digits) * 10 ^ number.exponent

theorem Text.digitsValue_append (front back : List Char) :
    digitsValue (front ++ back) = 10 ^ back.length * digitsValue front + digitsValue back := by
  unfold digitsValue
  rw [Nat.ofDigitChars_append, Nat.ofDigitChars_eq_ofDigitChars_zero]

namespace Numeral

/-- A numeral is read as what it denotes. -/
theorem value_decimal (numeral : Numeral) : numeral.decimal.value = numeral.value := by
  have tens : (10 : ℚ) ≠ 0 := by decide
  generalize placesEq : numeral.fraction.getD [] = places
  have scaled : (digitsValue (numeral.whole ++ places) : ℚ) *
      10 ^ (power numeral.exponent - places.length) =
        (digitsValue numeral.whole + digitsValue places / 10 ^ places.length) *
          10 ^ power numeral.exponent := by
    rw [digitsValue_append, zpow_sub₀ tens, zpow_natCast]
    push_cast
    field_simp
  unfold Decimal.value decimal value
  simp only [placesEq]
  cases sign : numeral.sign with
  | absent => simpa [Sign.apply] using scaled
  | plus => simpa [Sign.apply] using scaled
  | minus => simpa [Sign.apply] using scaled

/-! ### Reading -/

/-- No digit and no point comes after the places of a numeral. -/
theorem head?_exponentText (exponent : Option Exponent) :
    ∀ character ∈ (exponentText exponent).head?, character = 'e' ∨ character = 'E' := by
  cases exponent with
  | none => nofun
  | some exponent =>
      rintro character ⟨⟩
      exact exponent.marks

theorem noDigit_of_mark {character : Char} (marks : character = 'e' ∨ character = 'E') :
    character.isDigit = false := by
  rcases marks with rfl | rfl <;> rfl

theorem splitSign_text (sign : Sign) {body : List Char}
    (unsigned : ∀ character ∈ body.head?, character ≠ '-' ∧ character ≠ '+') :
    Decimal.splitSign (sign.text ++ body) = (sign == .minus, body) := by
  cases sign with
  | plus => rfl
  | minus => rfl
  | absent =>
      rw [Sign.text, List.nil_append]
      unfold Decimal.splitSign
      split
      · exact ((unsigned '-' rfl).1 rfl).elim
      · exact ((unsigned '+' rfl).2 rfl).elim
      · rfl

theorem unsigned_of_isDigit {character : Char} (digit : character.isDigit = true) :
    character ≠ '-' ∧ character ≠ '+' := by
  constructor
  · rintro rfl
    cases digit
  · rintro rfl
    cases digit

theorem readExponent?_exponentText (exponent : Option Exponent) :
    Decimal.readExponent? (exponentText exponent) = some (power exponent) := by
  cases exponent with
  | none => rfl
  | some exponent =>
      obtain ⟨mark, sign, digits, marks, digital⟩ := exponent
      have isMark : (mark == 'e' || mark == 'E') = true := by simpa using marks
      have unsigned : ∀ character ∈ digits.head?, character ≠ '-' ∧ character ≠ '+' :=
        fun character first => unsigned_of_isDigit
          (digital.2 character (List.mem_of_mem_head? first))
      obtain ⟨leading, after⟩ := digital.leading
      have filled : digits.isEmpty = false := by simpa using digital.1
      unfold exponentText Decimal.readExponent?
      simp only [splitSign_text sign unsigned, leading, after, isMark, filled, List.isEmpty_nil,
        Bool.not_false, Bool.and_self, if_true, power]
      cases sign <;> rfl

theorem splitFraction_text {fraction : Option (List Char)} (exponent : Option Exponent)
    (digital : ∀ character ∈ fraction.getD [], character.isDigit = true) :
    Decimal.splitFraction (fractionText fraction ++ exponentText exponent) =
      (fraction.getD [], exponentText exponent) := by
  cases fraction with
  | some digits =>
      obtain ⟨leading, after⟩ := leadingDigits_append digital fun character first =>
        noDigit_of_mark (head?_exponentText exponent character first)
      exact Prod.ext leading after
  | none =>
      cases exponent with
      | none => rfl
      | some exponent =>
          obtain ⟨mark, sign, digits, rfl | rfl, digital⟩ := exponent <;> rfl

theorem unsigned_text (numeral : Numeral) :
    ∀ character ∈ (numeral.whole ++ (fractionText numeral.fraction ++
      exponentText numeral.exponent)).head?, character ≠ '-' ∧ character ≠ '+' := by
  have digital := numeral.digital
  cases wholeEq : numeral.whole with
  | cons first rest =>
      rintro character ⟨⟩
      rw [wholeEq] at digital
      exact unsigned_of_isDigit (digital.2 first List.mem_cons_self)
  | nil =>
      rw [wholeEq] at digital
      cases fractionEq : numeral.fraction with
      | none => exact (digital.1 (by rw [fractionEq]; rfl)).elim
      | some digits =>
          rintro character ⟨⟩
          exact ⟨by decide, by decide⟩

/-- Every numeral is read. -/
theorem read?_text (numeral : Numeral) : Decimal.read? numeral.text = some numeral.decimal := by
  have digital := numeral.digital.2
  have wholeDigital : ∀ character ∈ numeral.whole, character.isDigit = true :=
    fun character member => digital character (List.mem_append_left _ member)
  have placesDigital : ∀ character ∈ numeral.fraction.getD [], character.isDigit = true :=
    fun character member => digital character (List.mem_append_right _ member)
  have ends : ∀ character ∈ (fractionText numeral.fraction ++
      exponentText numeral.exponent).head?, character.isDigit = false := by
    cases numeral.fraction with
    | some digits =>
        rintro character ⟨⟩
        rfl
    | none => exact fun character first => noDigit_of_mark (head?_exponentText _ character first)
  obtain ⟨leading, after⟩ := leadingDigits_append wholeDigital ends
  have filled : (numeral.whole.isEmpty && (numeral.fraction.getD []).isEmpty) = false := by
    simpa [List.append_eq_nil_iff] using numeral.digital.1
  unfold Decimal.read? text
  simp only [splitSign_text numeral.sign numeral.unsigned_text, leading, after,
    splitFraction_text numeral.exponent placesDigital, filled, Bool.false_eq_true, if_false,
    readExponent?_exponentText, Option.map_some]
  rfl

/-! ### What is read -/

theorem exists_sign (found : List Char) :
    ∃ sign : Sign, found = sign.text ++ (Decimal.splitSign found).2 := by
  unfold Decimal.splitSign
  split
  · exact ⟨.minus, rfl⟩
  · exact ⟨.plus, rfl⟩
  · exact ⟨.absent, rfl⟩

theorem exists_fraction (found : List Char) :
    ∃ fraction, found = fractionText fraction ++ (Decimal.splitFraction found).2 ∧
      fraction.getD [] = (Decimal.splitFraction found).1 := by
  unfold Decimal.splitFraction
  split
  · next rest =>
    refine ⟨some (leadingDigits rest), ?_, rfl⟩
    rw [fractionText, List.cons_append, leadingDigits_append_afterDigits]
  · exact ⟨none, rfl, rfl⟩

theorem isDigit_of_mem_splitFraction {found : List Char} :
    ∀ character ∈ (Decimal.splitFraction found).1, character.isDigit = true := by
  unfold Decimal.splitFraction
  split
  · exact isDigit_of_mem_leadingDigits
  · intro character absent
    cases absent

theorem exists_exponent {found : List Char} (reads : (Decimal.readExponent? found).isSome) :
    ∃ exponent, found = exponentText exponent := by
  unfold Decimal.readExponent? at reads
  split at reads
  · exact ⟨none, rfl⟩
  · next mark rest =>
    simp only [Option.isSome_ite, Bool.and_eq_true, Bool.or_eq_true, beq_iff_eq,
      Bool.not_eq_true', List.isEmpty_eq_false_iff, List.isEmpty_iff] at reads
    obtain ⟨⟨marks, filled⟩, ended⟩ := reads
    obtain ⟨sign, signed⟩ := exists_sign rest
    have digital := isDigits_of_ended filled ended
    exact ⟨some ⟨mark, sign, _, marks, digital⟩, congrArg (mark :: ·) signed⟩

/-- Nothing but a numeral is read. -/
theorem exists_of_read? {found : List Char} (reads : (Decimal.read? found).isSome) :
    ∃ numeral : Numeral, numeral.text = found := by
  unfold Decimal.read? at reads
  simp only at reads
  split at reads
  · cases reads
  · next filled =>
    rw [Option.isSome_map] at reads
    obtain ⟨sign, signed⟩ := exists_sign found
    obtain ⟨fraction, fractioned, places⟩ :=
      exists_fraction (afterDigits (Decimal.splitSign found).2)
    obtain ⟨exponent, exponentEq⟩ := exists_exponent reads
    have digital : IsDigits (leadingDigits (Decimal.splitSign found).2 ++ fraction.getD []) := by
      rw [places]
      refine ⟨by simpa [List.append_eq_nil_iff] using filled, fun character member => ?_⟩
      rcases List.mem_append.mp member with inWhole | inPlaces
      · exact isDigit_of_mem_leadingDigits character inWhole
      · exact isDigit_of_mem_splitFraction character inPlaces
    refine ⟨⟨sign, _, fraction, exponent, digital⟩, ?_⟩
    rw [text, ← exponentEq, ← fractioned, leadingDigits_append_afterDigits, ← signed]

/-! ### Plain numerals -/

/-- A sign and digits as a numeral. -/
def ofDigits (sign : Sign) {digits : List Char} (digital : IsDigits digits) : Numeral where
  sign := sign
  whole := digits
  fraction := none
  exponent := none
  digital := by rwa [Option.getD_none, List.append_nil]

theorem text_ofDigits (sign : Sign) {digits : List Char} (digital : IsDigits digits) :
    (ofDigits sign digital).text = sign.text ++ digits := by
  unfold text ofDigits fractionText exponentText
  simp only [List.append_nil]

theorem value_ofDigits (sign : Sign) {digits : List Char} (digital : IsDigits digits) :
    (ofDigits sign digital).value = (sign.apply (digitsValue digits : Int) : Int) := by
  have empty : digitsValue [] = 0 := rfl
  unfold value ofDigits power
  simp only [Option.getD_none, empty, Nat.cast_zero, zero_div, add_zero, zpow_zero, mul_one]
  cases sign <;> simp [Sign.apply]

theorem IsPlain.eq_ofDigits {numeral : Numeral} (plain : numeral.IsPlain) :
    ∃ digital : IsDigits numeral.whole, numeral = ofDigits numeral.sign digital := by
  obtain ⟨sign, whole, fraction, exponent, digital⟩ := numeral
  obtain ⟨rfl, rfl⟩ := plain
  rw [Option.getD_none, List.append_nil] at digital
  exact ⟨digital, rfl⟩

/-- Neither a point nor the mark of an exponent is among a sign and digits. -/
theorem isPlain_of_text {numeral : Numeral} {sign : Sign} {digits : List Char}
    (digital : IsDigits digits) (textEq : numeral.text = sign.text ++ digits) :
    numeral.IsPlain := by
  have only : ∀ character ∈ numeral.text, character.isDigit = false →
      character = '-' ∨ character = '+' := by
    rw [textEq]
    exact fun character member noDigit => digital.sign_of_mem member noDigit
  -- A point and the mark of an exponent are neither digits nor signs.
  unfold text at only
  constructor
  · cases fractionEq : numeral.fraction with
    | none => rfl
    | some places =>
        have point := only '.' (by simp [fractionEq, fractionText]) rfl
        exact absurd point (by decide)
  · cases exponentEq : numeral.exponent with
    | none => rfl
    | some exponent =>
        have mark := only exponent.mark (by simp [exponentEq, exponentText])
          (noDigit_of_mark exponent.marks)
        rcases exponent.marks with isMark | isMark <;> rw [isMark] at mark <;>
          exact absurd mark (by decide)

/-- The spellings of integers are the plain numerals. -/
theorem spellsInteger_text_iff {numeral : Numeral} {number : Int} :
    SpellsInteger number numeral.text ↔ numeral.IsPlain ∧ numeral.value = number := by
  constructor
  · rintro ⟨sign, digits, digital, textEq, rfl⟩
    refine ⟨isPlain_of_text digital textEq, ?_⟩
    -- What is read from a text is the same for both numerals.
    rw [← text_ofDigits sign digital] at textEq
    have sameDecimal := congrArg Decimal.read? textEq
    rw [read?_text, read?_text] at sameDecimal
    rw [← value_decimal, Option.some.inj sameDecimal, value_decimal, value_ofDigits]
  · rintro ⟨plain, denotes⟩
    obtain ⟨digital, numeralEq⟩ := plain.eq_ofDigits
    rw [numeralEq, value_ofDigits] at denotes
    rw [numeralEq, text_ofDigits]
    exact ⟨_, _, digital, rfl, Rat.intCast_inj.mp denotes⟩

end Numeral

end QuickFill
