import CameraFeed.Decimal.Numeral

/-! # Uptime — a number of seconds in days, hours, minutes and seconds

  The largest unit that is not zero comes first and every smaller one follows it, zeros included:
  `1d 0h 0m 5s`. Nothing at all is `0s`. -/

namespace CameraFeed.Time

/-- A number of one of the four units. -/
structure Part where
  amount : Nat
  unit : Char
  deriving DecidableEq, Repr

/-- A number of seconds in the four units, the largest one first. -/
def parts (seconds : Nat) : List Part :=
  [⟨seconds / 86400, 'd'⟩, ⟨seconds / 3600 % 24, 'h'⟩, ⟨seconds / 60 % 60, 'm'⟩,
    ⟨seconds % 60, 's'⟩]

/-- The parts from the first one that is not zero. -/
def shownParts (seconds : Nat) : List Part := (parts seconds).dropWhile (·.amount == 0)

/-- A part as its digits and the letter of its unit. -/
def Part.text (p : Part) : String := Decimal.text p.amount ++ String.singleton p.unit

/-- A number of seconds as text, such as `3d 4h 5m 6s`. -/
def uptime (seconds : Nat) : String :=
  match shownParts seconds with
  | [] => "0s"
  | shown => String.intercalate " " (shown.map Part.text)

end CameraFeed.Time
