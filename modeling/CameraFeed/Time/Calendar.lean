/-! # Calendar — days of the proleptic Gregorian calendar

  Years count through zero to negative numbers. A day of the calendar becomes a number of days
  since 1970-01-01. -/

namespace CameraFeed.Time

/-- A year with a 29th of February. -/
def isLeapYear (year : Int) : Bool := year % 4 == 0 && (year % 100 != 0 || year % 400 == 0)

/-- The lengths of the twelve months of a year. -/
def monthLengths (year : Int) : List Nat :=
  [31, if isLeapYear year then 29 else 28, 31, 30, 31, 30, 31, 31, 30, 31, 30, 31]

/-- The days of the years before a year, counted from the first of January of year 1. -/
def daysBeforeYear (year : Int) : Int :=
  let y := year - 1
  365 * y + y / 4 - y / 100 + y / 400

/-- The days from the first of January of year 1 to 1970-01-01. -/
def epochDays : Int := 719162

/-- A day of the calendar. -/
structure Date where
  year : Int
  month : Nat
  day : Nat
  deriving DecidableEq, Repr

namespace Date

/-- The month exists and has that day. -/
def isValid (d : Date) : Bool :=
  match (monthLengths d.year)[d.month - 1]? with
  | some length => 1 ≤ d.month && 1 ≤ d.day && d.day ≤ length
  | none => false

/-- Days since 1970-01-01. -/
def daysSinceEpoch (d : Date) : Int :=
  daysBeforeYear d.year + (((monthLengths d.year).take (d.month - 1)).foldr (· + ·) 0 : Nat)
    + (d.day : Int) - 1 - epochDays

end Date

end CameraFeed.Time
