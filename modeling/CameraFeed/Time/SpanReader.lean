import CameraFeed.Decimal.Numeral
import CameraFeed.Text.Blank
import CameraFeed.Time.Span

/-! # SpanReader — lengths of time in their written form

  A length is a sum of terms such as `1m 30s` or `1.5h`: a number, perhaps with a fraction, and a
  unit. White space may stand before a number, among its digits and before its unit. Everything is
  counted in words of 64 bits; a length that does not fit is refused. Zero needs no unit. -/

namespace CameraFeed.Time.Span

/-! ### Units -/

/-- The units of a length. -/
inductive Measure where
  | nanosecond
  | microsecond
  | millisecond
  | second
  | minute
  | hour
  | day
  | week
  | month
  | year
  deriving DecidableEq, Repr

namespace Measure

/-- The names of each unit. -/
def names : List (Measure × List String) := [
  (nanosecond, ["nanos", "nsec", "ns"]),
  (microsecond, ["usec", "us", "µs"]),
  (millisecond, ["millis", "msec", "ms"]),
  (second, ["seconds", "second", "secs", "sec", "s"]),
  (minute, ["minutes", "minute", "mins", "min", "m"]),
  (hour, ["hours", "hour", "hrs", "hr", "h"]),
  (day, ["days", "day", "d"]),
  (week, ["weeks", "week", "wks", "wk", "w"]),
  (month, ["months", "month", "M"]),
  (year, ["years", "year", "yrs", "yr", "y"])]

/-- The unit of a name. -/
def ofName? (name : List Char) : Option Measure :=
  (names.find? fun entry => entry.2.contains (String.ofList name)).map (·.1)

/-- The seconds of a unit, none of those that are shorter. -/
def seconds : Measure → Nat
  | nanosecond | microsecond | millisecond => 0
  | second => 1
  | minute => 60
  | hour => 3600
  | day => 86400
  | week => 604800
  | month => 2630016
  | year => 31557600

/-- The nanoseconds of a unit, none of those that are counted in seconds. -/
def nanos : Measure → Nat
  | nanosecond => 1
  | microsecond => 1000
  | millisecond => 1000000
  | _ => 0

/-- The nanoseconds that a fraction of a unit is counted in, none of those whose fractions are
counted in seconds. -/
def fractionNanos : Measure → Nat
  | microsecond => 1000
  | millisecond => 1000000
  | second => 1000000000
  | minute => 60000000000
  | _ => 0

end Measure

/-! ### Terms -/

/-- The number fits a word. -/
def word? (n : Nat) : Option Nat := if n < Decimal.wordLimit then some n else none

/-- A sum, in words. -/
def add? (total : Span) (seconds nanos : Nat) : Option Span := do
  let seconds ← word? seconds
  let nanos ← word? nanos
  let nanos ← word? (total.subsecond + nanos)
  let _ ← word? (total.seconds + seconds + nanos / second)
  some (.of (total.seconds + seconds) nanos)

/-- A sum with a number of units. -/
def addWhole? (total : Span) (unit : Measure) (n : Nat) : Option Span :=
  add? total (n * unit.seconds) (n * unit.nanos)

/-- A quotient without a remainder. -/
def quotient? (n d : Nat) : Option Nat := if n % d = 0 then some (n / d) else none

/-- A sum with a fraction of a unit, which has to be a whole number of what it is counted in. A
nanosecond has no fractions. -/
def addFraction? (total : Span) (unit : Measure) (numerator denominator : Nat) : Option Span :=
  if unit = .nanosecond then none
  else do
    let nanos ← word? (numerator * unit.fractionNanos)
    let seconds ← word? (if unit.fractionNanos = 0 then numerator * unit.seconds else 0)
    add? total (← quotient? seconds denominator) (← quotient? nanos denominator)

/-! ### Reading -/

/-- The characters that a unit is made of. -/
def isUnitChar (c : Char) : Bool := c.isAlpha || c == 'µ'

/-- Digits, with white space among them. -/
def isLooseDigit (c : Char) : Bool := Decimal.isDigit c || Text.isBlank c

/-- The digits of a text. -/
def digitsOf (cs : List Char) : List Char := cs.filter Decimal.isDigit

/-- The numerator and the denominator after a point, and what follows. -/
def fraction? (cs : List Char) : Option ((Nat × Nat) × List Char) :=
  let ds := digitsOf (cs.takeWhile isLooseDigit)
  if ds.isEmpty ∨ 19 < ds.length then none
  else some ((Decimal.value ds, Nat.pow 10 ds.length), cs.dropWhile isLooseDigit)

/-- A term, added to the total, and what follows it. The text starts with a digit. -/
def term? (total : Span) (cs : List Char) : Option (Span × List Char) := do
  let n ← word? (Decimal.value (digitsOf (cs.takeWhile isLooseDigit)))
  let rest := cs.dropWhile isLooseDigit
  let (part, rest) ← match rest with
    | '.' :: rest => do
      let (part, rest) ← fraction? rest
      some (some part, rest)
    | rest => some (none, rest)
  let unit ← Measure.ofName? (rest.takeWhile isUnitChar)
  let total ← addWhole? total unit n
  let total ← match part with
    | none => some total
    | some (numerator, denominator) => addFraction? total unit numerator denominator
  some (total, rest.dropWhile isUnitChar)

/-- The terms up to the end. A term takes at least two characters, so the length of the text is
enough fuel. -/
def terms? : Nat → Span → List Char → Option Span
  | 0, _, _ => none
  | fuel + 1, total, cs => do
    let (total, rest) ← term? total cs
    match rest with
    | [] => some total
    | c :: _ =>
      if Decimal.isDigit c then terms? fuel total rest
      -- White space ends a unit; more of it may stand before the next number.
      else if Text.isBlank c then
        match Text.trimStart rest with
        | [] => some total
        | d :: more => if Decimal.isDigit d then terms? fuel total (d :: more) else none
      else none

/-- The length of a text. -/
def read? (s : String) : Option Span :=
  if s = "0" then some zero
  else
    match Text.trimStart s.toList with
    | [] => none
    | c :: cs => if Decimal.isDigit c then terms? (cs.length + 1) zero (c :: cs) else none

end CameraFeed.Time.Span
