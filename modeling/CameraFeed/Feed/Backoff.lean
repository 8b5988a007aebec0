import CameraFeed.Time.Span

/-! # Backoff — how long to wait before the next connection

  The delays double from one attempt to the next, up to a limit, and start over once a connection
  opened. The first delay is the retry time, rounded down to an even number of milliseconds, and
  two milliseconds at least. -/

namespace CameraFeed.Feed

open Time (Span)

/-- The choices of how to connect again. -/
structure Retry where
  /-- The first delay, in milliseconds. -/
  first : Nat
  /-- The longest delay. -/
  longest : Span
  deriving DecidableEq, Repr

/-! ### Growing delays -/

/-- The most milliseconds a delay is counted in. -/
def mostMillis : Nat := Nat.pow 2 64 - 1

/-- A number that is counted up to `mostMillis` and no further. -/
def saturated (n : Nat) : Nat := min n mostMillis

/-- Delays that grow by the same factor from one to the next. -/
structure Growth where
  /-- The factor from one delay to the next. -/
  base : Nat
  /-- The milliseconds that powers of the base count. -/
  unit : Nat
  /-- The longest delay. -/
  longest : Span
  /-- The power of the base that counts the next delay. -/
  current : Nat
  deriving DecidableEq, Repr

namespace Growth

/-- Delays that begin with the base itself. -/
def new (base unit : Nat) (longest : Span) : Growth := ⟨base, unit, longest, base⟩

/-- The next delay if it were not limited. -/
def unlimited (g : Growth) : Span := .ofMillis (saturated (g.current * g.unit))

/-- The next delay. From the first one that is too long, it is the longest delay again and again. -/
def next (g : Growth) : Option (Span × Growth) :=
  if g.longest.nanos < g.unlimited.nanos then some (g.longest, g)
  else some (g.unlimited, { g with current := saturated (g.current * g.base) })

end Growth

/-- Half of the first delay: the delay that would come before it. -/
def Retry.unit (r : Retry) : Nat := max (r.first / 2) 1

/-- The delays as long as no connection opens. -/
def Retry.growth (r : Retry) : Growth := .new 2 r.unit r.longest

/-! ### Starting over -/

/-- The delays of a subscription. -/
structure Backoff where
  retry : Retry
  /-- A connection opened since the last delay. -/
  hasOpened : Bool
  growth : Growth
  deriving DecidableEq, Repr

namespace Backoff

/-- No delay was given yet. -/
def new (retry : Retry) : Backoff := ⟨retry, false, retry.growth⟩

/-- A connection opened. -/
def opened (b : Backoff) : Backoff := { b with hasOpened := true }

/-- The next delay, unless they run out. `hasOpened` is looked at only here. -/
def next (b : Backoff) : Option (Span × Backoff) :=
  (if b.hasOpened then b.retry.growth else b.growth).next.map fun (delay, growth) =>
    (delay, { b with hasOpened := false, growth := growth })

/-- The next delays, up to a number of them. -/
def take (b : Backoff) : Nat → List Span × Backoff
  | 0 => ([], b)
  | n + 1 => b.next.elim ([], b) fun (delay, b) =>
    let (delays, b) := b.take n
    (delay :: delays, b)

end Backoff

end CameraFeed.Feed
