import CameraFeed.Decimal.Numeral
import CameraFeed.Time.Instant

/-! # Relative — how long ago, in one unit

  Less than ten seconds either way is `just now`. Anything else is a whole number of the largest
  unit that fits into the distance: `5 minutes ago`, `in 1 day`. -/

namespace CameraFeed.Time

/-- The units of a distance in time. -/
inductive Unit where
  | second
  | minute
  | hour
  | day
  deriving DecidableEq, Repr

namespace Unit

/-- The seconds of a unit. -/
def seconds : Unit → Nat
  | second => 1
  | minute => 60
  | hour => 3600
  | day => 86400

/-- The English name of a unit. -/
def name : Unit → String
  | second => "second"
  | minute => "minute"
  | hour => "hour"
  | day => "day"

/-- The largest unit that fits into a number of seconds. -/
def fitting (seconds : Nat) : Unit :=
  if seconds < 60 then second
  else if seconds < 3600 then minute
  else if seconds < 86400 then hour
  else day

end Unit

/-- A distance in time. -/
inductive Relative where
  /-- Less than ten seconds away. -/
  | justNow
  /-- A number of units ago. -/
  | ago (amount : Nat) (unit : Unit)
  /-- A number of units from now. -/
  | ahead (amount : Nat) (unit : Unit)
  deriving DecidableEq, Repr

namespace Relative

/-- The distance of a number of seconds in the past. A negative number lies in the future. -/
def ofSeconds (seconds : Int) : Relative :=
  let distance := seconds.natAbs
  if distance < 10 then justNow
  else
    let unit := Unit.fitting distance
    let amount := distance / unit.seconds
    if seconds < 0 then ahead amount unit else ago amount unit

/-- The text of `before` as seen at `now`. -/
def of (before now : Instant) : Relative := ofSeconds (now.secondsSince before)

/-- An amount with its unit, in the plural unless there is one. -/
def amountText (amount : Nat) (unit : Unit) : String :=
  Decimal.text amount ++ " " ++ unit.name ++ (if amount = 1 then "" else "s")

/-- The distance as text. -/
def text : Relative → String
  | justNow => "just now"
  | ago amount unit => amountText amount unit ++ " ago"
  | ahead amount unit => "in " ++ amountText amount unit

end Relative

/-- How `before` reads at `now`, such as `5 minutes ago`. -/
def relativeText (before now : Instant) : String := (Relative.of before now).text

end CameraFeed.Time
