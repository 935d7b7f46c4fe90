import QuickFill.Clock.ZoneGap
import QuickFill.Proofs.Number.Whole

/-!
# How a page spells the clock of its server

The offset of the server is an integer of seconds, in any spelling that a numeral has for it: with
a sign, with leading zeros, with a fraction of zeros, with an exponent.  Digits alone are read as
they are, and everything else in double precision, which is exact for all these integers.  The two
ways differ in one place only: the least offset is not among the magnitudes that the second lets
through.
-/

namespace QuickFill

namespace ZoneGap

open Text Double

variable {raw : String} {numeral : Numeral} {offset : Int}

theorem readServerOffset?_integer
    (reads : readInteger leastInt32.natAbs greatestInt32.natAbs (trim raw.toList) = .ok offset) :
    readServerOffset? (some raw) = some offset := by
  unfold readServerOffset?
  simp only [Option.bind_eq_bind, Option.bind_some, reads]

theorem readServerOffset?_fraction {fault : NumeralFault}
    (unread : readInteger leastInt32.natAbs greatestInt32.natAbs (trim raw.toList) =
      .error fault) :
    readServerOffset? (some raw) = (Decimal.read? (trim raw.toList)).bind fun decimal =>
      if (ofDecimal decimal).magnitudeAtMost greatestInt32.natAbs then
        some ((ofDecimal decimal).truncate leastInt32 greatestInt32)
      else none := by
  unfold readServerOffset?
  simp only [Option.bind_eq_bind, Option.bind_some, unread]

/-- In double precision an offset is what it is, if its magnitude is let through. -/
theorem truncate_numeral (denotes : numeral.value = offset) (least : leastInt32 ≤ offset)
    (greatest : offset ≤ greatestInt32) :
    (if (ofDecimal numeral.decimal).magnitudeAtMost greatestInt32.natAbs then
      some ((ofDecimal numeral.decimal).truncate leastInt32 greatestInt32) else none) =
        if offset = leastInt32 then none else some offset := by
  rw [← numeral.value_decimal] at denotes
  have short : offset.natAbs < twoPow 32 := by
    have width : twoPow 32 = 4294967296 := by decide
    unfold leastInt32 at least
    unfold greatestInt32 at greatest
    omega
  have whole := ofDecimal_scales (Decimal.scales_of_value denotes) short
  rw [magnitudeAtMost_whole whole, truncate_whole whole, (Decimal.natAbs_of_value denotes).2]
  unfold leastInt32 greatestInt32 at *
  by_cases isLeast : offset = -2147483648
  · rw [if_pos isLeast, if_neg]
    rw [isLeast]
    decide
  · rw [if_neg isLeast, if_pos (decide_eq_true (by omega)), Int.min_eq_right greatest,
      Int.max_eq_right least]

/-- Whichever spelling of an integer of 32 bits a page has for the offset of its server, it is
read as that integer, but for the least one, which is only read from digits; and nothing but a
numeral is read. -/
theorem serverOffset_spelled (raw : String) :
    (∀ (numeral : Numeral) (offset : Int), trim raw.toList = numeral.text →
      numeral.value = offset → leastInt32 ≤ offset → offset ≤ greatestInt32 →
        readServerOffset? (some raw) =
          if offset = leastInt32 ∧ ¬numeral.IsPlain then none else some offset) ∧
      ((∀ numeral : Numeral, trim raw.toList ≠ numeral.text) →
        readServerOffset? (some raw) = none) := by
  constructor
  · intro numeral offset trimmed denotes least greatest
    by_cases plain : numeral.IsPlain
    · have spelled : SpellsInteger offset (trim raw.toList) :=
        trimmed ▸ Numeral.spellsInteger_text_iff.mpr ⟨plain, denotes⟩
      rw [if_neg fun isLeast => isLeast.2 plain]
      exact readServerOffset?_integer (readInteger_eq_ok_iff.mpr ⟨spelled, least, greatest⟩)
    · cases reads : readInteger leastInt32.natAbs greatestInt32.natAbs (trim raw.toList) with
      | ok seconds =>
          obtain ⟨spelled, -⟩ := readInteger_eq_ok_iff.mp reads
          rw [trimmed] at spelled
          exact absurd (Numeral.spellsInteger_text_iff.mp spelled).1 plain
      | error fault =>
          -- Only here the bound on the magnitude shuts the least offset out.
          rw [readServerOffset?_fraction reads, trimmed, numeral.read?_text, Option.bind_some,
            truncate_numeral denotes least greatest]
          simp only [plain, not_false_eq_true, and_true]
  · intro noNumeral
    cases reads : readInteger leastInt32.natAbs greatestInt32.natAbs (trim raw.toList) with
    | ok seconds =>
        obtain ⟨⟨sign, digits, digital, textEq, -⟩, -⟩ := readInteger_eq_ok_iff.mp reads
        rw [← Numeral.text_ofDigits sign digital] at textEq
        exact absurd textEq (noNumeral _)
    | error fault =>
        rw [readServerOffset?_fraction reads]
        cases decimalEq : Decimal.read? (trim raw.toList) with
        | none => rfl
        | some decimal =>
            obtain ⟨numeral, textEq⟩ := Numeral.exists_of_read? (by rw [decimalEq]; rfl)
            exact absurd textEq.symm (noNumeral numeral)

/-- Thirty-six hundreds of seconds are an hour, and a word is no offset. -/
theorem serverOffset_spelled_hour :
    readServerOffset? (some " +0036e2 ") = some 3600 ∧ readServerOffset? (some "utc") = none := by
  let hour : Numeral :=
    ⟨.plus, ['0', '0', '3', '6'], none, some ⟨'e', .absent, ['2'], by decide, by decide⟩, by decide⟩
  have denotes : hour.value = (3600 : Int) := by decide +kernel
  have hourRead := (serverOffset_spelled " +0036e2 ").1 hour 3600 (by decide) denotes (by decide)
    (by decide)
  refine ⟨hourRead.trans (by decide), (serverOffset_spelled "utc").2 fun numeral textEq => ?_⟩
  have reads := congrArg Decimal.read? textEq
  rw [numeral.read?_text] at reads
  cases reads

/-- The least offset is read from its digits, and not read if a point and a zero follow them. -/
theorem leastOffset_unread :
    ∃ numeral : Numeral, trim "-2147483648.0".toList = numeral.text ∧
      numeral.value = (leastInt32 : ℚ) ∧
        readServerOffset? (some "-2147483648") = some leastInt32 ∧
          readServerOffset? (some "-2147483648.0") = none := by
  refine ⟨⟨.minus, "2147483648".toList, some ['0'], none, by decide⟩, ?_⟩
  decide +kernel

end ZoneGap

end QuickFill
