import QuickFill.Clock.ZoneGap

/-!
# Clock readings of a browser

A browser gives the time as milliseconds of universal time and its zone as minutes
west of universal time, both as numbers of double precision that may be no number
at all.
-/

namespace QuickFill

/-- The time and the zone that a browser gives; none stands for what is no number. -/
structure BrowserReading where
  time : Option Double
  zone : Option Double
  deriving DecidableEq, Repr

namespace BrowserReading

/-- The seconds east of universal time: whole seconds, and none at all when they
amount to a day. -/
def offset (reading : BrowserReading) : Int :=
  match reading.zone with
  | none => 0
  | some zone =>
    let seconds := (zone.negate.scale 60).truncate leastInt32 greatestInt32
    if seconds.natAbs < 86400 then seconds else 0

/-- The whole milliseconds of universal time. -/
def milliseconds (reading : BrowserReading) : Int :=
  match reading.time with
  | none => 0
  | some time => time.truncate leastInt64 greatestInt64

/-- The instant read; the epoch stands for one outside the supported range. -/
def instant (reading : BrowserReading) : Instant :=
  let found := Instant.ofMilliseconds reading.milliseconds reading.offset
  if found.InRange then found else .ofMilliseconds 0 reading.offset

end BrowserReading

end QuickFill
