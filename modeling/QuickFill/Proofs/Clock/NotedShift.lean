import QuickFill.Proofs.Text.Digits
import QuickFill.Session.Notice

/-!
# What a note says about the clock

A note names the side on which the local clock is of the clock of the server, and how many
whole hours it is away.  The clock of the server is a reading of the local clock moved the
other way, by as many hours and less than one more: the gap is taken once, held between the
bounds of 32 bits, and used for both.
-/

namespace QuickFill

open Text

/-- The two sides on which a clock can be of another. -/
inductive ClockSide where
  | ahead
  | behind
  deriving DecidableEq, Repr

namespace ClockSide

def opposite : ClockSide → ClockSide
  | .ahead => .behind
  | .behind => .ahead

/-- The message about one hour on a side. -/
def singular : ClockSide → String
  | .ahead => aheadSingular
  | .behind => behindSingular

/-- The message about more hours on a side. -/
def plural : ClockSide → String
  | .ahead => aheadPlural
  | .behind => behindPlural

def phrase : ClockSide → String
  | .ahead => "ahead of"
  | .behind => "behind"

theorem phrase_length_inj {side other : ClockSide}
    (same : side.phrase.length = other.phrase.length) : side = other := by
  cases side <;> cases other <;> first | rfl | exact absurd same (by decide)

/-- The English note about a number of hours. -/
def note (side : ClockSide) (hours : Nat) : String :=
  "Note: You are " ++ toString hours ++ (if hours = 1 then " hour " else " hours ") ++
    side.phrase ++ " server time."

-- The equation of `note` takes Lean seconds to derive from its long texts, so the definition
-- is opened once, here.
theorem toList_note (side : ClockSide) (hours : Nat) :
    (side.note hours).toList = "Note: You are ".toList ++ ((toString hours).toList ++
      ' ' :: ((if hours = 1 then "hour " else "hours ") ++ side.phrase ++
        " server time.").toList) := by
  delta note
  simp only [String.toList_append, List.append_assoc]
  split <;> rfl

theorem english_note (side : ClockSide) (hours : Nat) :
    Translator.english.interpolate
      (Translator.english.ngettext side.singular side.plural hours) [toString hours] =
        side.note hours := by
  have slots : Translator.english.interpolate = Text.interpolate := rfl
  have forms : Translator.english.ngettext side.singular side.plural hours =
      if hours = 1 then side.singular else side.plural := rfl
  rw [slots, forms, Text.interpolate, ← String.toList_inj, toList_note]
  by_cases one : hours = 1 <;> cases side <;>
    simp only [one, if_true, if_false, String.toList_ofList, String.toList_append,
      List.append_assoc] <;> rfl

/-- The number in a note is read off it. -/
theorem digitsValue_note (side : ClockSide) (hours : Nat) :
    digitsValue (leadingDigits ((side.note hours).toList.drop 14)) = hours := by
  have opening : "Note: You are ".toList.length = 14 := rfl
  have ends {rest : List Char} : ∀ character ∈ (' ' :: rest).head?, character.isDigit = false := by
    rintro character ⟨⟩
    decide
  have numeral : (toString hours).toList = decimal hours := by simp [decimal, Nat.repr]
  rw [toList_note, List.drop_left' opening, numeral, (leadingDigits_decimal hours ends).1,
    digitsValue_decimal]

theorem note_inj {side other : ClockSide} {hours others : Nat} :
    side.note hours = other.note others ↔ side = other ∧ hours = others := by
  constructor
  · intro same
    have hoursEq : hours = others := by
      rw [← digitsValue_note side hours, same, digitsValue_note]
    subst hoursEq
    have lengths := congrArg (fun text => text.toList.length) same
    simp only [toList_note, List.length_append, List.length_cons, String.toList_append,
      String.length_toList] at lengths
    exact ⟨phrase_length_inj (by omega), rfl⟩
  · rintro ⟨rfl, rfl⟩
    rfl

end ClockSide

namespace Instant

def nanosPerHour : Int := 3600 * nanosPerSecond

/-- The nanoseconds from the start of 1970 to an instant outside of leap seconds. -/
def nanosSinceEpoch (instant : Instant) : Int :=
  instant.second * nanosPerSecond + instant.nano

/-- One instant lies before another by a number of hours, and by less than one more. -/
def PrecedesBy (hours : Nat) (first second : Instant) : Prop :=
  hours * nanosPerHour ≤ second.nanosSinceEpoch - first.nanosSinceEpoch ∧
    second.nanosSinceEpoch - first.nanosSinceEpoch < (hours + 1) * nanosPerHour

end Instant

namespace ZoneGap

variable (localOffset serverOffset : Int)

/-- The whole hours between two offsets, which are at most as many seconds apart as 32 bits
can say. -/
def hoursBetween : Nat :=
  min (localOffset - serverOffset).natAbs 2147483647 / 3600

/-- The side on which a clock is that is as many seconds east of universal time. -/
def sideOf : ClockSide :=
  if serverOffset < localOffset then .ahead else .behind

theorem hoursBetween_eq :
    hoursBetween localOffset serverOffset =
      (difference localOffset serverOffset).natAbs / 3600 := by
  simp only [hoursBetween, difference, clampInt32, leastInt32, greatestInt32]
  omega

theorem hoursBetween_comm :
    hoursBetween serverOffset localOffset = hoursBetween localOffset serverOffset := by
  simp only [hoursBetween]
  omega

theorem difference_pos_iff :
    0 < difference localOffset serverOffset ↔ serverOffset < localOffset := by
  simp only [difference, clampInt32, leastInt32, greatestInt32]
  omega

theorem natAbs_wholeHours :
    (between localOffset (some serverOffset)).wholeHours.natAbs =
      hoursBetween localOffset serverOffset := by
  rw [hoursBetween_eq, wholeHours, Int.natAbs_tdiv]
  rfl

theorem wholeHours_pos_iff (apart : hoursBetween localOffset serverOffset ≠ 0) :
    0 < (between localOffset (some serverOffset)).wholeHours ↔ serverOffset < localOffset := by
  have whole : (between localOffset (some serverOffset)).wholeHours =
      (difference localOffset serverOffset).tdiv 3600 := rfl
  rw [whole, ← difference_pos_iff localOffset serverOffset]
  rw [hoursBetween_eq] at apart
  generalize difference localOffset serverOffset = gap at apart ⊢
  rcases Int.le_total 0 gap with ahead | behind
  · rw [Int.tdiv_eq_ediv_of_nonneg ahead]
    omega
  · have rounded : 0 ≤ (-gap).tdiv 3600 := Int.tdiv_nonneg (by omega) (by decide)
    rw [Int.neg_tdiv] at rounded
    omega

/-- The note of two offsets in any language. -/
theorem noteText?_between (translator : Translator) :
    (between localOffset (some serverOffset)).noteText? translator =
      if hoursBetween localOffset serverOffset = 0 then none
      else
        let side := sideOf localOffset serverOffset
        let hours := hoursBetween localOffset serverOffset
        some (translator.interpolate (translator.ngettext side.singular side.plural hours)
          [toString hours]) := by
  have silent : (between localOffset (some serverOffset)).wholeHours = 0 ↔
      hoursBetween localOffset serverOffset = 0 := by
    rw [← natAbs_wholeHours, Int.natAbs_eq_zero]
  by_cases near : hoursBetween localOffset serverOffset = 0
  · rw [noteText?, if_pos (silent.mpr near), if_pos near]
  · rw [noteText?, if_neg (mt silent.mp near), if_neg near, natAbs_wholeHours]
    by_cases ahead : serverOffset < localOffset
    · rw [if_pos ((wholeHours_pos_iff _ _ near).mpr ahead), sideOf, if_pos ahead]
      rfl
    · rw [if_neg (mt (wholeHours_pos_iff _ _ near).mp ahead), sideOf, if_neg ahead]
      rfl

theorem english_noteText? :
    (between localOffset (some serverOffset)).noteText? .english =
      if hoursBetween localOffset serverOffset = 0 then none
      else some ((sideOf localOffset serverOffset).note
        (hoursBetween localOffset serverOffset)) := by
  rw [noteText?_between]
  simp only [ClockSide.english_note]

variable {localOffset serverOffset}

theorem english_noteText?_eq_some {side : ClockSide} {hours : Nat} (counted : 1 ≤ hours) :
    (between localOffset (some serverOffset)).noteText? .english = some (side.note hours) ↔
      sideOf localOffset serverOffset = side ∧
        hoursBetween localOffset serverOffset = hours := by
  rw [english_noteText?]
  split
  · next near =>
    constructor
    · nofun
    · rintro ⟨-, far⟩
      omega
  · rw [Option.some_inj, ClockSide.note_inj]

theorem sideOf_eq_ahead :
    sideOf localOffset serverOffset = .ahead ↔ 0 < difference localOffset serverOffset := by
  rw [difference_pos_iff, sideOf]
  by_cases ahead : serverOffset < localOffset <;> simp [ahead]

theorem sideOf_eq_behind :
    sideOf localOffset serverOffset = .behind ↔ ¬0 < difference localOffset serverOffset := by
  rw [← sideOf_eq_ahead]
  cases sideOf localOffset serverOffset <;> simp

/-- Outside of leap seconds a clock is moved by exactly the gap. -/
theorem nanosSinceEpoch_serverTime {reading server : Instant}
    (noLeap : reading.nano < nanosPerSecond)
    (moved : (between localOffset (some serverOffset)).serverTime? reading = some server) :
    reading.nanosSinceEpoch - server.nanosSinceEpoch =
      difference localOffset serverOffset * nanosPerSecond := by
  have addedEq : reading.addSeconds? (-difference localOffset serverOffset) = some server := moved
  rw [Instant.addSeconds?] at addedEq
  split at addedEq
  · obtain rfl := Option.some.inj addedEq
    rw [Instant.addSeconds, if_pos (Or.inr noLeap)]
    simp only [Instant.nanosSinceEpoch, nanosPerSecond]
    omega
  · cases addedEq

variable (localOffset serverOffset)

/-- What the note about two offsets says, and how far the two clocks are apart. -/
structure NoteTellsShift : Prop where
  silent_iff : (between localOffset (some serverOffset)).noteText? .english = none ↔
    hoursBetween localOffset serverOffset = 0
  ahead_eq : serverOffset < localOffset → hoursBetween localOffset serverOffset ≠ 0 →
    (between localOffset (some serverOffset)).noteText? .english =
      some (ClockSide.ahead.note (hoursBetween localOffset serverOffset))
  behind_eq : localOffset < serverOffset → hoursBetween localOffset serverOffset ≠ 0 →
    (between localOffset (some serverOffset)).noteText? .english =
      some (ClockSide.behind.note (hoursBetween localOffset serverOffset))
  exchanged_hours : hoursBetween serverOffset localOffset = hoursBetween localOffset serverOffset
  /-- Exchanging the two offsets exchanges the sides and nothing else. -/
  exchanged_iff : ∀ (side : ClockSide) (hours : Nat), 1 ≤ hours →
    ((between serverOffset (some localOffset)).noteText? .english =
        some (side.opposite.note hours) ↔
      (between localOffset (some serverOffset)).noteText? .english = some (side.note hours))
  /-- The clock of the server is where the note says. -/
  told_iff : ∀ reading server : Instant, reading.nano < nanosPerSecond →
    (between localOffset (some serverOffset)).serverTime? reading = some server →
      ∀ hours, 1 ≤ hours →
        ((between localOffset (some serverOffset)).noteText? .english =
            some (ClockSide.ahead.note hours) ↔ server.PrecedesBy hours reading) ∧
          ((between localOffset (some serverOffset)).noteText? .english =
            some (ClockSide.behind.note hours) ↔ reading.PrecedesBy hours server)
  /-- In any language the forms for the side and the number of hours are asked for. -/
  translated_eq : ∀ translator : Translator,
    (between localOffset (some serverOffset)).noteText? translator =
      if hoursBetween localOffset serverOffset = 0 then none
      else
        let side := sideOf localOffset serverOffset
        let hours := hoursBetween localOffset serverOffset
        some (translator.interpolate (translator.ngettext side.singular side.plural hours)
          [toString hours])

/-- A note tells the truth about how the clock is moved, on both sides and up to the greatest
gap; where the server says nothing, nothing is noted and the clock is not moved. -/
theorem note_tells_shift :
    NoteTellsShift localOffset serverOffset ∧
      (∀ translator, (between localOffset none).noteText? translator = none) ∧
        ∀ reading, (between localOffset none).serverTime? reading = some reading := by
  refine ⟨⟨?_, ?_, ?_, hoursBetween_comm localOffset serverOffset, ?_, ?_,
    noteText?_between localOffset serverOffset⟩, fun _ => rfl, fun _ => rfl⟩
  · rw [english_noteText?]
    simp
  · intro ahead far
    rw [english_noteText?, if_neg far, sideOf, if_pos ahead]
  · intro behind far
    rw [english_noteText?, if_neg far, sideOf, if_neg (by omega)]
  · intro side hours counted
    rw [english_noteText?_eq_some counted, english_noteText?_eq_some counted, hoursBetween_comm]
    refine and_congr_left fun sameHours => ?_
    -- Offsets an hour apart are not the same, so exchanging them changes the side.
    have apart : localOffset ≠ serverOffset := by
      rintro rfl
      simp [hoursBetween] at sameHours
      omega
    cases side <;> simp only [sideOf, ClockSide.opposite] <;> split <;> split <;> simp <;> omega
  · intro reading server noLeap moved hours counted
    have distance := nanosSinceEpoch_serverTime noLeap moved
    rw [english_noteText?_eq_some counted, english_noteText?_eq_some counted, sideOf_eq_ahead,
      sideOf_eq_behind, hoursBetween_eq]
    simp only [Instant.PrecedesBy, Instant.nanosPerHour, nanosPerSecond] at distance ⊢
    generalize difference localOffset serverOffset = gap at distance ⊢
    constructor <;> omega

/-- The greatest gap that there is. -/
example : (between 2147483647 (some (-2147483648))).noteText? .english =
    some "Note: You are 596523 hours ahead of server time." := by
  decide +kernel

end ZoneGap

end QuickFill
