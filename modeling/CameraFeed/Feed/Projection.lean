import CameraFeed.Feed.Buffer
import CameraFeed.Json.Printer
import CameraFeed.Time.Relative

/-! # Projection — which rows show their payload

  A row takes over the common setting when it is created. A change of the common setting changes
  every row there is at that moment; a single row may be changed on its own after that. -/

namespace CameraFeed.Feed

/-! ### Rows -/

/-- The payload of a row. -/
inductive Payload where
  | collapsed
  | expanded (text : String)
  /-- Writing the payload failed. The other rows are not concerned. -/
  | failed (reason : String)
  deriving DecidableEq, Repr

/-- A row as it is shown. -/
structure Row where
  seq : Nat
  id : String
  device : String
  code : String
  action : String
  index : Int
  created : String
  payload : Payload
  deriving DecidableEq, Repr

/-! ### Settings -/

/-- Which rows show their payload. -/
structure Projection where
  /-- The common setting. -/
  byDefault : Bool
  /-- The setting of each row, by its number. -/
  rows : List (Nat × Bool)
  deriving DecidableEq, Repr

namespace Projection

/-- No rows. -/
def new (byDefault : Bool) : Projection := ⟨byDefault, []⟩

/-- The setting of a row. -/
def isExpanded (p : Projection) (seq : Nat) : Option Bool := p.rows.lookup seq

/-- The rows without the one of a number. -/
def without (seq : Nat) (rows : List (Nat × Bool)) : List (Nat × Bool) :=
  rows.filter fun row => row.1 != seq

/-- Creates a row with the common setting. -/
def addRow (p : Projection) (seq : Nat) : Projection :=
  { p with rows := (seq, p.byDefault) :: without seq p.rows }

/-- Changes the common setting and that of every row. -/
def setAll (p : Projection) (expanded : Bool) : Projection :=
  ⟨expanded, p.rows.map fun row => (row.1, expanded)⟩

/-- Flips the setting of one row and returns the new one, if there is such a row. -/
def toggleRow (p : Projection) (seq : Nat) : Option Bool × Projection :=
  match p.isExpanded seq with
  | none => (none, p)
  | some b =>
    (some !b, { p with rows := p.rows.map fun row => if row.1 = seq then (seq, !b) else row })

/-- Forgets the rows of some numbers. -/
def forget (p : Projection) (seqs : List Nat) : Projection :=
  { p with rows := p.rows.filter fun row => !seqs.contains row.1 }

/-- Forgets all rows. -/
def clear (p : Projection) : Projection := { p with rows := [] }

/-! ### Rendering -/

/-- The row of an event. One without a setting follows the common one. -/
def renderRow (p : Projection) (names : Directory) (now : Time.Instant) (b : Buffered) : Row where
  seq := b.seq
  id := b.event.id.shown
  device := names.displayName b.event.device
  code := b.event.code
  action := b.event.action
  index := b.event.index
  created := Time.relativeText b.event.createdAt now
  payload := match (p.isExpanded b.seq).getD p.byDefault with
    | false => .collapsed
    | true =>
      match b.event.data.writePretty with
      | .ok text => .expanded text
      | .error reason => .failed reason

/-- The rows of events, in their order. -/
def render (p : Projection) (events : List Buffered) (names : Directory) (now : Time.Instant) :
    List Row :=
  events.map (p.renderRow names now)

end Projection

end CameraFeed.Feed
