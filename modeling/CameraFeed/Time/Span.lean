/-! # Span — lengths of time

  A length of time in whole nanoseconds. -/

namespace CameraFeed.Time

/-- A length of time. -/
structure Span where
  nanos : Nat
  deriving DecidableEq, Repr, Inhabited

namespace Span

/-- Nanoseconds of a second. -/
def second : Nat := 1000000000

/-- No time at all. -/
def zero : Span := ⟨0⟩

/-- A number of seconds and nanoseconds. -/
def of (seconds nanos : Nat) : Span := ⟨seconds * second + nanos⟩

/-- A number of milliseconds. -/
def ofMillis (n : Nat) : Span := ⟨n * 1000000⟩

/-- The whole seconds. -/
def seconds (s : Span) : Nat := s.nanos / second

/-- The nanoseconds beyond the whole seconds. -/
def subsecond (s : Span) : Nat := s.nanos % second

/-- The whole milliseconds. -/
def millis (s : Span) : Nat := s.nanos / 1000000

/-- The shorter one of two lengths. -/
def shorter (s t : Span) : Span := if s.nanos ≤ t.nanos then s else t

end Span

end CameraFeed.Time
