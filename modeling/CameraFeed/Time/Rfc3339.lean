import CameraFeed.Decimal.Numeral
import CameraFeed.Text.Blank
import CameraFeed.Time.Calendar
import CameraFeed.Time.Instant

/-! # Rfc3339 — instants in their written form

  Reads `2024-05-01T12:30:00.5+02:00` and looser spellings of it: one or two digits for each part
  but the year, white space before parts and separators, a space instead of the `T`, `UTC` instead
  of an offset. A year of more than four digits needs a sign. Second 60 is the leap second. -/

namespace CameraFeed.Time.Rfc3339

/-- Why a text is no instant. -/
inductive Fault where
  /-- The text ends too early. -/
  | tooShort
  /-- A character does not belong there. -/
  | invalid
  /-- A part has a value that it cannot have. -/
  | outOfRange
  /-- The offset moves the instant out of the calendar. -/
  | impossible
  /-- Something follows the instant. -/
  | tooLong
  deriving DecidableEq, Repr

/-- The message of a fault. -/
def Fault.message : Fault → String
  | tooShort => "premature end of input"
  | invalid => "input contains invalid characters"
  | outOfRange => "input is out of range"
  | impossible => "no possible date and time matching input"
  | tooLong => "trailing input"

/-! ### Parts -/

/-- One or more digits, at most `most` of them. -/
def number (most : Option Nat) (cs : List Char) : Except Fault (Nat × List Char) :=
  let ds := match most with
    | some n => (cs.take n).takeWhile Decimal.isDigit
    | none => cs.takeWhile Decimal.isDigit
  match cs, ds with
  | [], _ => .error .tooShort
  | _, [] => .error .invalid
  | _, _ => .ok (Decimal.value ds, cs.drop ds.length)

/-- A number of one or two digits after white space, within bounds. -/
def twoDigits (least most : Nat) (cs : List Char) : Except Fault (Nat × List Char) := do
  let (n, rest) ← number (some 2) (Text.trimStart cs)
  if least ≤ n ∧ n ≤ most then .ok (n, rest) else .error .outOfRange

/-- The mark that has to come next. -/
def mark (c : Char) : List Char → Except Fault (List Char)
  | [] => .error .tooShort
  | d :: rest => if d = c then .ok rest else .error .invalid

/-- A mark after optional white space. -/
def looseMark (c : Char) (cs : List Char) : Except Fault (List Char) := mark c (Text.trimStart cs)

/-- Years that fit a signed word of 32 bits. -/
def yearFits (year : Int) : Bool := -2147483648 ≤ year && year ≤ 2147483647

/-- A year: four digits at most, or a sign and any number of them. -/
def year (cs : List Char) : Except Fault (Int × List Char) := do
  let (n, rest) ← match Text.trimStart cs with
    | '-' :: cs => do
      let (n, rest) ← number none cs
      pure (-(n : Int), rest)
    | '+' :: cs => do
      let (n, rest) ← number none cs
      pure ((n : Int), rest)
    | cs => do
      let (n, rest) ← number (some 4) cs
      pure ((n : Int), rest)
  if yearFits n then .ok (n, rest) else .error .outOfRange

/-- Year, month and day, which need not exist. -/
def date (cs : List Char) : Except Fault (Date × List Char) := do
  let (year, cs) ← year cs
  let cs ← looseMark '-' cs
  let (month, cs) ← twoDigits 1 12 cs
  let cs ← looseMark '-' cs
  let (day, cs) ← twoDigits 1 31 cs
  .ok (⟨year, month, day⟩, cs)

/-- The nanoseconds that digits after the point stand for. Those beyond the ninth are dropped. -/
def fraction (cs : List Char) : Except Fault (Nat × List Char) := do
  let (n, rest) ← number (some 9) cs
  let used := cs.length - rest.length
  .ok (n * Nat.pow 10 (9 - used), rest.dropWhile Decimal.isDigit)

/-- A time of day: hours, minutes and seconds as seconds, and nanoseconds. Second 60 is second 59
with the nanoseconds of a leap second. -/
def time (cs : List Char) : Except Fault ((Nat × Nat) × List Char) := do
  let (hour, cs) ← twoDigits 0 23 cs
  let cs ← looseMark ':' cs
  let (minute, cs) ← twoDigits 0 59 cs
  let cs ← looseMark ':' cs
  let (second, cs) ← twoDigits 0 60 cs
  let (nanos, cs) ← match cs with
    | '.' :: cs => fraction cs
    | cs => .ok (0, cs)
  let (second, leap) := if second = 60 then (59, Instant.second) else (second, 0)
  .ok ((hour * 3600 + minute * 60 + second, leap + nanos), Text.trimStart cs)

/-- The next two characters, when they are digits. Fewer than two octets are too few. -/
def pair : List Char → Except Fault (Char × Char × List Char)
  | [] => .error .tooShort
  | [c] => if c.utf8Size < 2 then .error .tooShort else .error .invalid
  | a :: b :: rest =>
    if Decimal.isDigit a && Decimal.isDigit b then .ok (a, b, rest) else .error .invalid

/-- The hours and minutes of an offset, as seconds. -/
def offsetSize (cs : List Char) : Except Fault (Int × List Char) := do
  let (a, b, cs) ← pair cs
  let cs := cs.dropWhile fun c => c == ':' || Text.isBlank c
  let (c, d, cs) ← pair cs
  let hours := Decimal.value [a, b]
  let minutes := Decimal.value [c, d]
  if minutes < 60 then .ok ((hours * 3600 + minutes * 60 : Nat), cs) else .error .outOfRange

/-- The distance from Greenwich, in seconds to the east. -/
def offset : List Char → Except Fault (Int × List Char)
  | [] => .error .tooShort
  | c :: cs =>
    if c = 'Z' ∨ c = 'z' then .ok (0, cs)
    else if c = '+' then offsetSize cs
    else if c = '-' ∨ c = '\u2212' then do
      let (size, rest) ← offsetSize cs
      .ok (-size, rest)
    else .error .invalid

/-- `UTC`, in any case, or an offset. -/
def zone : List Char → Except Fault (Int × List Char)
  | u :: t :: c :: rest =>
    if u.toLower = 'u' ∧ t.toLower = 't' ∧ c.toLower = 'c' then .ok (0, rest)
    else offset (u :: t :: c :: rest)
  | cs => offset cs

/-! ### The whole -/

/-- The first and the last year of the calendar. -/
def calendarYears : Int × Int := (-262143, 262142)

/-- The year lies in the calendar. -/
def inCalendar (year : Int) : Bool := calendarYears.1 ≤ year && year ≤ calendarYears.2

/-- The first second of the calendar. -/
def firstSecond : Int := (Date.mk calendarYears.1 1 1).daysSinceEpoch * 86400

/-- The last second of the calendar. -/
def lastSecond : Int := (Date.mk calendarYears.2 12 31).daysSinceEpoch * 86400 + 86399

/-- The instant of a date and a time of day at an offset. -/
def assemble (d : Date) (t : Nat × Nat) (offset : Int) : Except Fault Instant :=
  if ¬ (inCalendar d.year ∧ d.isValid) then .error .outOfRange
  else if 86400 ≤ offset.natAbs then .error .outOfRange
  else
    let seconds := d.daysSinceEpoch * 86400 + t.1 - offset
    if firstSecond ≤ seconds ∧ seconds ≤ lastSecond then .ok ⟨seconds, t.2⟩ else .error .impossible

/-- The `T` between date and time, in either case, or a space. -/
def divider : List Char → Except Fault (List Char)
  | [] => .error .tooShort
  | c :: cs => if c = 'T' ∨ c = 't' ∨ c = ' ' then .ok cs else .error .invalid

/-- The instant of a text. -/
def read (cs : List Char) : Except Fault Instant := do
  let (d, cs) ← date cs
  let cs ← divider cs
  let (t, cs) ← time cs
  let (offset, cs) ← zone cs
  if Text.allBlank cs then assemble d t offset else .error .tooLong

end CameraFeed.Time.Rfc3339
