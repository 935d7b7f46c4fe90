import QuickFill.Clock.Instant
import QuickFill.Json.Decode
import QuickFill.Text.Blank

/-!
# The gap between two clocks

A page may say how far the clock of its server is from universal time.  The gap
between the local clock and that of the server is taken once and then moves every
later reading of the clock.
-/

namespace QuickFill

/-- The seconds by which the local clock is ahead of the clock of the server, and
whether the server said anything at all. -/
structure ZoneGap where
  seconds : Int
  reconciled : Bool
  deriving DecidableEq, Repr

namespace ZoneGap

def unknown : ZoneGap := ⟨0, false⟩

/-- The seconds from one offset back to another. -/
def difference (localOffset serverOffset : Int) : Int :=
  clampInt32 (localOffset - serverOffset)

/-- The gap between a local offset and the offset of a server, if it is known. -/
def between (localOffset : Int) : Option Int → ZoneGap
  | some serverOffset => ⟨difference localOffset serverOffset, true⟩
  | none => unknown

/-- The whole hours of the gap, without a fraction of an hour. -/
def wholeHours (gap : ZoneGap) : Int :=
  gap.seconds.tdiv 3600

/-- The time of the server at a reading of the local clock; none when it leaves
the supported range. -/
def serverTime? (gap : ZoneGap) (reading : Instant) : Option Instant :=
  if gap.reconciled then reading.addSeconds? (-gap.seconds) else some reading

/-- Read the offset that a page gives for its server: a whole number of seconds,
or any decimal numeral, of which the whole part counts. -/
def readServerOffset? (raw : Option String) : Option Int := do
  let text := Text.trim (← raw).toList
  match Text.readInteger leastInt32.natAbs greatestInt32.natAbs text with
  | .ok seconds => some seconds
  | .error _ =>
    let number := Double.ofDecimal (← Decimal.read? text)
    if number.magnitudeAtMost greatestInt32.natAbs then
      some (number.truncate leastInt32 greatestInt32)
    else none

open Json

def shape : Shape :=
  [field "seconds" (asInt leastInt32 greatestInt32), field "reconciled" asBool]

def ofJson (value : Json) : Decoded ZoneGap := do
  let fields ← asRecord shape value
  return {
    seconds := ← required fields "seconds" (asInt leastInt32 greatestInt32)
    reconciled := ← required fields "reconciled" asBool }

def toJson (gap : ZoneGap) : Json :=
  .ofMembers [("seconds", .ofInt gap.seconds), ("reconciled", .bool gap.reconciled)]

end ZoneGap

end QuickFill
