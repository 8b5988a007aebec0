import CameraFeed.Feed.Backoff
import CameraFeed.Push.Client

/-! # Connection — the task that keeps a subscription alive

  A task connects, sends every change of its state and every event that arrives, and connects again
  after a delay when the connection ends or fails. Each delivery is marked with the generation of
  the subscription. Messages that cannot be decoded or carry no event are passed over. A task is
  finished when a delivery fails, since the feed is gone then, or when its delays run out. -/

namespace CameraFeed.Feed

open Push (Attempt Arrival Client)

/-! ### Deliveries -/

/-- The state of the connection of a subscription. -/
inductive ConnectionState where
  /-- There is no subscription. -/
  | idle
  | connecting
  | opened
  /-- The server ended the connection. -/
  | closed
  /-- The attempt was refused, or the connection failed. -/
  | errored
  deriving DecidableEq, Repr, Inhabited

/-- The content of a delivery. -/
inductive FeedMessage where
  | state (s : ConnectionState)
  | event (e : DeviceEvent)
  deriving Repr

/-- A message of a task, marked with the generation of its subscription. -/
structure Delivery where
  generation : Nat
  message : FeedMessage
  deriving Repr

/-! ### State -/

/-- The next thing that a task does. -/
inductive Stage where
  /-- It sends the state `connecting`. -/
  | announcing
  /-- It asks its client for a connection. -/
  | connecting
  /-- It sends the state `opened`. -/
  | opening (c : Push.Connection)
  /-- It waits for the next arrival. -/
  | reading (c : Push.Connection)
  /-- It sends an event. -/
  | passing (e : DeviceEvent) (c : Push.Connection)
  /-- It sends the state in which the connection ended, `closed` or `errored`. -/
  | ending (s : ConnectionState)
  /-- It waits for the delay before the next attempt. -/
  | waiting (delay : Time.Span)
  /-- Nothing: the task is over. -/
  | finished

/-- The task of a subscription. -/
structure Task where
  /-- The filter of every request. -/
  filter : Filter
  generation : Nat
  backoff : Backoff
  stage : Stage

namespace Task

/-- The task before its first step. -/
def start (filter : Filter) (generation : Nat) (retry : Retry) : Task :=
  ⟨filter, generation, .new retry, .announcing⟩

/-- The connection that a task owns. -/
def connection? (t : Task) : Option Push.Connection :=
  match t.stage with
  | .opening c | .reading c | .passing _ c => some c
  | _ => none

/-! ### Steps -/

/-- The message that the task has to send before it can go on. -/
def offer? (t : Task) : Option FeedMessage :=
  match t.stage with
  | .announcing => some (.state .connecting)
  | .opening _ => some (.state .opened)
  | .passing e _ => some (.event e)
  | .ending s => some (.state s)
  | _ => none

/-- The task after it failed to send, or after its delays ran out. -/
def abandoned (t : Task) : Task := { t with stage := .finished }

/-- The task after its backoff was asked for the next delay. Without one it gives up. -/
def delayed (t : Task) : Option (Time.Span × Backoff) → Task
  | none => t.abandoned
  | some (delay, backoff) => { t with backoff := backoff, stage := .waiting delay }

/-- The task after it sent the message that it offered. -/
def told (t : Task) : Task :=
  match t.stage with
  | .announcing => { t with stage := .connecting }
  | .opening c => { t with stage := .reading c }
  | .passing _ c => { t with stage := .reading c }
  | .ending _ => t.delayed t.backoff.next
  | _ => t

/-- The stage after the next arrival on a connection, or after its end. There is none while the
connection is silent. -/
def arrived? (c : Push.Connection) : Option Stage :=
  match c.arrivals with
  | [] => if c.ends then some (.ending .closed) else none
  | .failure _ :: _ => some (.ending .errored)
  | .message m :: rest =>
    match m.event? with
    | some e => some (.passing e { c with arrivals := rest })
    | none => some (.reading { c with arrivals := rest })

/-- The task after it tried to send the message that it offers, if it offers one. `heard` says that
the receiver is still there. -/
def tell (t : Task) (heard : Bool) : Task :=
  match t.offer? with
  | none => t
  | some _ => if heard then t.told else t.abandoned

/-- A step in which the task deals with its client, if it can take one. -/
def proceed (t : Task) (client : Client) : Option (Task × Client) :=
  match t.stage with
  | .connecting =>
    match client.connect t.filter with
    | (.refused _, client) => some ({ t with stage := .ending .errored }, client)
    | (.opened c, client) =>
      some ({ t with backoff := t.backoff.opened, stage := .opening c }, client)
  | .reading c => (arrived? c).map fun stage => ({ t with stage := stage }, client)
  | _ => none

/-- The task after its delay, if it is waiting. -/
def wake? (t : Task) : Option Task :=
  match t.stage with
  | .waiting _ => some { t with stage := .announcing }
  | _ => none

end Task

end CameraFeed.Feed
