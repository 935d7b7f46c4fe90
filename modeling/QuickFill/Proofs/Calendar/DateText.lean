import QuickFill.Calendar.DateText
import QuickFill.Proofs.Calendar.DayNumber
import QuickFill.Proofs.Template.Joined
import QuickFill.Proofs.Text.Digits

/-!
# Dates written and read

A date is written with at least four digits for its year, with a sign where these are too few
or too many, and two digits each for its month and its day.  What is written so is read back
as the same date, throughout the supported range.
-/

namespace QuickFill

theorem Text.isBlank_of_isDigit {character : Char} (digit : character.isDigit = true) :
    Text.isBlank character = false := by
  rw [Char.isDigit, Bool.and_eq_true, decide_eq_true_eq, decide_eq_true_eq] at digit
  have bounds : 48 ≤ character.toNat ∧ character.toNat ≤ 57 := digit
  simp only [isBlank, Bool.or_eq_false_iff, Bool.and_eq_false_iff, decide_eq_false_iff_not,
    beq_eq_false_iff_ne]
  omega

namespace Date

open Clock Text

variable {digits rest : List Char}

theorem trimStart_digits (all : ∀ character ∈ digits, character.isDigit = true)
    (some : digits ≠ []) : trimStart (digits ++ rest) = digits ++ rest := by
  obtain ⟨first, others, rfl⟩ := List.exists_cons_of_ne_nil some
  have notBlank := isBlank_of_isDigit (all first List.mem_cons_self)
  rw [trimStart, List.cons_append, List.dropWhile_cons_of_neg (by simp [notBlank])]

theorem readRun_digits (all : ∀ character ∈ digits, character.isDigit = true)
    (some : digits ≠ []) (ends : ∀ character ∈ rest.head?, character.isDigit = false) :
    readRun (digits ++ rest) = .ok (digitsValue digits, rest) := by
  obtain ⟨leading, after⟩ := leadingDigits_append all ends
  obtain ⟨first, others, rfl⟩ := List.exists_cons_of_ne_nil some
  rw [List.cons_append] at leading after ⊢
  simp only [readRun, leading, after, List.isEmpty_cons, Bool.false_eq_true, if_false]

theorem readShortRun_digits {most : Nat}
    (all : ∀ character ∈ digits, character.isDigit = true) (some : digits ≠ [])
    (short : digits.length ≤ most)
    (ends : ∀ character ∈ rest.head?, character.isDigit = false) :
    readShortRun most (digits ++ rest) = .ok (digitsValue digits, rest) := by
  obtain ⟨leading, -⟩ := leadingDigits_append all ends
  have taken := List.take_of_length_le short
  obtain ⟨first, others, rfl⟩ := List.exists_cons_of_ne_nil some
  rw [List.cons_append] at leading ⊢
  simp only [readShortRun, leading, taken, List.isEmpty_cons, Bool.false_eq_true, if_false]
  rw [← List.cons_append, List.drop_left]

/-- Two digits between one and a greatest value are read. -/
theorem readPart_zeroPadded {greatest part : Nat} (first : 1 ≤ part) (last : part ≤ greatest)
    (short : greatest < 100) (ends : ∀ character ∈ rest.head?, character.isDigit = false) :
    readPart greatest (zeroPadded 2 part ++ rest) = .ok (part, rest) := by
  have all : ∀ character ∈ zeroPadded 2 part, character.isDigit = true :=
    fun _ => isDigit_of_mem_zeroPadded
  have length : (zeroPadded 2 part).length = 2 := length_zeroPadded (by decide) (by omega)
  rw [readPart, trimStart_digits all (zeroPadded_ne_nil 2 part),
    readShortRun_digits all (zeroPadded_ne_nil 2 part) (Nat.le_of_eq length) ends,
    digitsValue_zeroPadded]
  exact if_pos ⟨first, last⟩

/-- A year is read with its sign, which is there where it has more than four digits. -/
theorem readYear_writeYear {year : Int} (wide : leastInt32 ≤ year ∧ year ≤ greatestInt32)
    (ends : ∀ character ∈ rest.head?, character.isDigit = false) :
    readYear (writeYear year ++ rest) = .ok (year, rest) := by
  have all : ∀ character ∈ zeroPadded 4 year.natAbs, character.isDigit = true :=
    fun _ => isDigit_of_mem_zeroPadded
  have some := zeroPadded_ne_nil 4 year.natAbs
  have run := readRun_digits all some ends
  rw [digitsValue_zeroPadded] at run
  have bounded : (if leastInt32 ≤ year ∧ year ≤ greatestInt32 then .ok (year, rest)
      else .error .outOfRange) = (.ok (year, rest) : Except DateFault (Int × List Char)) :=
    if_pos wide
  rw [writeYear]
  by_cases plain : 0 ≤ year ∧ year < 10000
  · have length : (zeroPadded 4 year.natAbs).length = 4 :=
      length_zeroPadded (by decide) (by omega)
    have short := readShortRun_digits all some (Nat.le_of_eq length) ends
    have notSign (sign : Char) (noDigit : sign.isDigit = false) (others : List Char) :
        zeroPadded 4 year.natAbs ++ rest ≠ sign :: others := by
      intro signed
      obtain ⟨first, tail, split⟩ := List.exists_cons_of_ne_nil some
      rw [split] at signed all
      obtain rfl := (List.cons.inj signed).1
      rw [all first List.mem_cons_self] at noDigit
      cases noDigit
    rw [digitsValue_zeroPadded] at short
    rw [if_pos plain, readYear, trimStart_digits all some]
    split
    · next digits signed => exact absurd signed (notSign '-' rfl digits)
    · next digits signed => exact absurd signed (notSign '+' rfl digits)
    · rw [short]
      have value : ((year.natAbs : Nat) : Int) = year := by omega
      simp only [Except.map, bind, Except.bind, value, bounded]
  · rw [if_neg plain, List.cons_append, readYear]
    by_cases negative : year < 0
    · have value : -((year.natAbs : Nat) : Int) = year := by omega
      have notBlank : trimStart ('-' :: (zeroPadded 4 year.natAbs ++ rest)) =
          '-' :: (zeroPadded 4 year.natAbs ++ rest) := rfl
      simp only [if_pos negative, notBlank, run, Except.map, bind, Except.bind, value, bounded]
    · have value : ((year.natAbs : Nat) : Int) = year := by omega
      have notBlank : trimStart ('+' :: (zeroPadded 4 year.natAbs ++ rest)) =
          '+' :: (zeroPadded 4 year.natAbs ++ rest) := rfl
      simp only [if_neg negative, notBlank, run, Except.map, bind, Except.bind, value, bounded]

theorem day_le (date : Date) : date.day ≤ 31 := by
  have each : ∀ (leap : Bool) (month : Fin 13), monthLength leap month ≤ 31 := by decide
  have last := date.civil.2.2.2
  have := each (isLeapYear date.year) ⟨date.month, by have := date.civil.2.1; omega⟩
  exact Nat.le_trans last this

theorem ofSupported?_of_inRange {date : Date} (inRange : date.InRange) :
    ofSupported? date.year date.month date.day = some date := by
  rw [ofSupported?, ofCivil?, dif_pos date.civil]
  exact Option.filter_eq_some_iff.mpr ⟨rfl, decide_eq_true inRange⟩

/-- What is written is read back, throughout the supported range. -/
theorem read_writeDate {date : Date} (inRange : date.InRange) :
    read (writeDate date) = .ok date := by
  obtain ⟨monthFrom, monthTo, dayFrom, -⟩ := date.civil
  have years := date.inRange_iff_year.mp inRange
  have dash (others : List Char) :
      ∀ character ∈ ('-' :: others).head?, character.isDigit = false := by
    rintro character ⟨⟩
    rfl
  have yearRead (rest : List Char) :
      readYear (writeYear date.year ++ '-' :: rest) = .ok (date.year, '-' :: rest) :=
    readYear_writeYear (by simp only [leastInt32, greatestInt32]; omega) (dash rest)
  have monthRead (rest : List Char) :
      readPart 12 (zeroPadded 2 date.month ++ '-' :: rest) = .ok (date.month, '-' :: rest) :=
    readPart_zeroPadded monthFrom monthTo (by decide) (dash rest)
  have dayRead : readPart 31 (zeroPadded 2 date.day) = .ok (date.day, []) := by
    have noRest : ∀ character ∈ ([] : List Char).head?, character.isDigit = false := nofun
    have := readPart_zeroPadded dayFrom date.day_le (by decide) noRest
    rwa [List.append_nil] at this
  simp only [read, writeDate, List.append_assoc, List.cons_append, yearRead, readDash, monthRead,
    dayRead, ofSupported?_of_inRange inRange, bind, Except.bind, List.isEmpty_nil, if_true]

/-! ### The template of dates -/

theorem render_yearFigure (year : Int) :
    (Template.yearFigure year).render .zeros = writeYear year := by
  rw [Template.yearFigure, writeYear]
  by_cases plain : 0 ≤ year ∧ year < 10000
  · have unsigned : ¬year < 0 := by omega
    simp only [if_pos plain, Template.Figure.render, Template.padNumber, Template.signOr,
      if_neg unsigned, List.nil_append, List.length_nil, Nat.sub_zero]
    rfl
  · simp only [if_neg plain, Template.Figure.render, Template.padNumber, Template.signOr]
    by_cases negative : year < 0
    · simp only [if_pos negative]
      rfl
    · simp only [if_neg negative]
      rfl

/-- The template of calendar links writes dates as they are read. -/
theorem render?_date (moment : Moment) :
    Template.render? Settings.standard.dateTemplate moment =
      some (String.ofList (writeDate moment.date)) := by
  have month := moment.date.civil.2.1
  have day := moment.date.day_le
  have items : Template.items? Settings.standard.dateTemplate.toList =
      some [Template.numberItem .year, .literal '-', Template.numberItem .month, .literal '-',
        Template.numberItem .day] := rfl
  simp only [Template.render?, items, Option.bind_some, Template.renderItems?,
    Template.Item.render?, Template.numberItem, Template.NumberField.figure?, Option.map_some,
    render_yearFigure]
  simp only [Template.Figure.render,
    Template.writePair_zeros (Nat.lt_of_le_of_lt month (by decide : 12 < 100)),
    Template.writePair_zeros (Nat.lt_of_le_of_lt day (by decide : 31 < 100)),
    writeDate, List.append_assoc, List.cons_append, List.nil_append, List.append_nil]

end Date

end QuickFill
