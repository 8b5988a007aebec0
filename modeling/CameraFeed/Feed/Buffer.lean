import CameraFeed.Device.Event

/-! # Buffer — the events that are kept

  Events are kept newest first. Each event gets the next number, and no number is given twice, also
  after `clear`. With a limit the oldest events are evicted. -/

namespace CameraFeed.Feed

/-- An event as it sits in the buffer. -/
structure Buffered where
  /-- The number of the event, which is the number of its row. -/
  seq : Nat
  event : DeviceEvent
  deriving Repr

/-- The events that are kept. -/
structure Buffer where
  /-- The events, newest first. -/
  events : List Buffered
  /-- The most events that are kept, if there is a limit. -/
  limit : Option Nat
  /-- The number of the next event. -/
  nextSeq : Nat
  deriving Repr

/-- What adding an event did. -/
structure Prepended where
  /-- The number of the event. -/
  seq : Nat
  /-- The numbers of the events that made room, newest first. -/
  evicted : List Nat
  deriving DecidableEq, Repr

namespace Buffer

/-- No events. A limit of zero is no limit. -/
def new (limit : Option Nat) : Buffer := ⟨[], limit.filter (0 < ·), 1⟩

/-- Adds an event at the front. -/
def prepend (b : Buffer) (event : DeviceEvent) : Prepended × Buffer :=
  let events := ⟨b.nextSeq, event⟩ :: b.events
  let kept := match b.limit with
    | none => events
    | some limit => events.take limit
  (⟨b.nextSeq, (events.drop kept.length).map (·.seq)⟩,
    { b with events := kept, nextSeq := b.nextSeq + 1 })

/-- Lets go of all events. Numbers go on from where they were. -/
def clear (b : Buffer) : Buffer := { b with events := [] }

end Buffer

end CameraFeed.Feed
