/-! # Instant — points in time and the seconds between them

  An instant counts seconds since 1970-01-01T00:00:00Z and nanoseconds within the second. From
  10^9 on the nanoseconds run through the leap second that follows the counted one. -/

namespace CameraFeed.Time

/-- A point in time. -/
structure Instant where
  /-- Seconds since the epoch. -/
  seconds : Int
  /-- Nanoseconds within the second, up to two seconds of them in a leap second. -/
  nanos : Nat
  deriving DecidableEq, Repr, Inhabited

namespace Instant

/-- Nanoseconds of a second. -/
def second : Nat := 1000000000

/-- Seconds since the day began. -/
def timeOfDay (t : Instant) : Int := t.seconds % 86400

/-- The instant lies in a leap second. -/
def inLeapSecond (t : Instant) : Bool := second ≤ t.nanos

/-- The leap second that a difference has to count: the one that the earlier time of day lies in,
when the other time of day is later. -/
def leapBetween (now before : Instant) : Int :=
  if before.timeOfDay < now.timeOfDay ∧ before.inLeapSecond then 1
  else if now.timeOfDay < before.timeOfDay ∧ now.inLeapSecond then -1
  else 0

/-- The nanoseconds from `before` to `now`. -/
def nanosSince (now before : Instant) : Int :=
  (now.seconds - before.seconds + leapBetween now before) * (second : Int)
    + ((now.nanos : Int) - (before.nanos : Int))

/-- The whole seconds from `before` to `now`, rounded toward zero. -/
def secondsSince (now before : Instant) : Int := (nanosSince now before).tdiv second

/-- The instant some seconds later. -/
def later (t : Instant) (seconds : Int) : Instant := { t with seconds := t.seconds + seconds }

end Instant

end CameraFeed.Time
