import CameraFeed.Feed.Projection
import CameraFeed.Feed.TaskTable

/-! # Live — the feed of a subscription

  A feed has one subscription for its filter, the buffer that the subscription fills, and the rows
  of the buffer. The subscription is a spawned task, of which the feed keeps the handle. The task
  puts its deliveries into a queue of limited size, from which the feed takes them one by one.

  Each change of the filter aborts the task, waits until the task is dropped, clears the buffer and
  the rows, and spawns a new task under the next generation. Deliveries of older generations that
  are still in the queue change nothing when they are taken. -/

namespace CameraFeed.Feed

open Push (Client)

/-- The options of a feed. -/
structure Options where
  retry : Retry
  /-- The size of the queue. A size of zero counts as one. -/
  capacity : Nat
  /-- The limit of the buffer, if there is one. -/
  maxEvents : Option Nat
  /-- The default setting of the rows. -/
  expanded : Bool

/-- The feed, with the table that it spawns its tasks into. -/
structure LiveFeed where
  retry : Retry
  /-- The size of the queue. -/
  capacity : Nat
  filter : Filter
  buffer : Buffer
  projection : Projection
  /-- The number of subscriptions so far, which is the generation of the last one. -/
  generation : Nat
  /-- The handle of the task of the subscription. -/
  subscription : Option Handle
  tasks : TaskTable
  state : ConnectionState
  /-- When the connection opened, while `state` is `opened`. -/
  openSince : Option Time.Instant
  /-- The deliveries that were sent and not taken yet, oldest first. -/
  queue : List Delivery
  /-- The number of senders of the queue: the one of the feed, and a clone for each task. -/
  senders : Nat

/-- A change of the feed that a delivery leads to. -/
inductive Update where
  | state (s : ConnectionState)
  /-- The event of the number was added. -/
  | event (seq : Nat)
  deriving DecidableEq, Repr

namespace LiveFeed

/-- A feed without a subscription. -/
def new (filter : Filter) (options : Options) : LiveFeed where
  retry := options.retry
  capacity := max options.capacity 1
  filter := filter
  buffer := .new options.maxEvents
  projection := .new options.expanded
  generation := 0
  subscription := none
  tasks := .empty
  state := .idle
  openSince := none
  queue := []
  senders := 1

/-- The task of the subscription, unless it was dropped. -/
def task (f : LiveFeed) : Option Task := f.subscription.bind f.tasks.task?

/-! ### Tasks -/

/-- Drops the task of a handle together with its sender. A task is dropped only once. -/
def retire (f : LiveFeed) (h : Handle) : LiveFeed :=
  match f.tasks.task? h with
  | none => f
  | some _ => { f with tasks := f.tasks.drop h, senders := f.senders - 1 }

/-- Spawns a task for the filter under the next generation. The task owns a clone of the sender. -/
def spawn (f : LiveFeed) : LiveFeed :=
  let generation := f.generation + 1
  let (handle, tasks) := f.tasks.spawn (.start f.filter generation f.retry)
  { f with
    generation := generation
    subscription := some handle
    tasks := tasks
    senders := f.senders + 1 }

/-- The feed after the task of a handle took a step. A task that is finished is dropped. -/
def stepped (f : LiveFeed) (h : Handle) (t : Task) : LiveFeed :=
  match t.stage with
  | .finished => f.retire h
  | _ => { f with tasks := f.tasks.update h t }

/-- A step of the task of a handle, if it can take one. The task sends what it offers as soon as the
queue has room, and deals with its client if it offers nothing. -/
def work (f : LiveFeed) (h : Handle) (client : Client) : Option (LiveFeed × Client) :=
  match f.tasks.task? h with
  | none => none
  | some t =>
    match t.offer? with
    | some m =>
      if f.queue.length < f.capacity then
        let queue := f.queue ++ [⟨t.generation, m⟩]
        some ({ f with queue := queue }.stepped h (t.tell true), client)
      else none
    | none => (t.proceed client).map fun (t, client) => (f.stepped h t, client)

/-- The end of the delay of the task of a handle, if it is waiting. -/
def wake (f : LiveFeed) (h : Handle) : Option LiveFeed :=
  match f.tasks.task? h with
  | none => none
  | some t => t.wake?.map (f.stepped h)

/-! ### Subscriptions -/

/-- Takes the handle out of the feed. The task goes on. -/
def release (f : LiveFeed) : LiveFeed := { f with subscription := none }

/-- Resets the connection state. -/
def calm (f : LiveFeed) : LiveFeed := { f with state := .idle, openSince := none }

/-- Aborts the task of the subscription, if there is one, and waits until the task is dropped. -/
def teardown (f : LiveFeed) : LiveFeed :=
  match f.subscription with
  | none => f.calm
  | some h => (f.release.retire h).calm

/-- Clears the buffer and the rows. -/
def discard (f : LiveFeed) : LiveFeed :=
  { f with buffer := f.buffer.clear, projection := f.projection.clear }

/-- Starts a subscription for the filter in the place of the running one. -/
def subscribe (f : LiveFeed) : LiveFeed := f.teardown.discard.spawn

/-- Tears the feed down for good. -/
def shutdown (f : LiveFeed) : LiveFeed := f.teardown.discard

/-- Replaces the filter and subscribes. -/
def setFilter (f : LiveFeed) (filter : Filter) : LiveFeed := { f with filter := filter }.subscribe

/-- Replaces the cameras of the filter and subscribes. -/
def setDevices (f : LiveFeed) (uuids : List String) : LiveFeed :=
  f.setFilter { f.filter with devices := .ofTyped uuids }

/-- Replaces the codes of the filter and subscribes. -/
def setCodes (f : LiveFeed) (codes : List String) : LiveFeed :=
  f.setFilter { f.filter with codes := .ofTyped codes }

/-- Replaces the actions of the filter and subscribes. -/
def setActions (f : LiveFeed) (actions : List String) : LiveFeed :=
  f.setFilter { f.filter with actions := .ofTyped actions }

/-! ### Rows -/

/-- Sets the default and every row. -/
def setAll (f : LiveFeed) (expanded : Bool) : LiveFeed :=
  { f with projection := f.projection.setAll expanded }

/-- Flips the setting of one row and returns the new one, if there is such a row. -/
def toggleRow (f : LiveFeed) (seq : Nat) : Option Bool × LiveFeed :=
  let (shown, projection) := f.projection.toggleRow seq
  (shown, { f with projection := projection })

/-- The rows of the events in the buffer. -/
def rows (f : LiveFeed) (names : Directory) (now : Time.Instant) : List Row :=
  f.projection.render f.buffer.events names now

/-! ### Taking deliveries -/

/-- The feed after a message of its subscription. -/
def accept (f : LiveFeed) (now : Time.Instant) : FeedMessage → Update × LiveFeed
  | .state s =>
    (.state s, { f with state := s, openSince := if s = .opened then some now else none })
  | .event e =>
    let (added, buffer) := f.buffer.prepend e
    let projection := (f.projection.addRow added.seq).forget added.evicted
    (.event added.seq, { f with buffer := buffer, projection := projection })

/-- The delivery is of the current generation, and the feed has a subscription. -/
def concerns (f : LiveFeed) (d : Delivery) : Bool :=
  d.generation == f.generation && f.subscription.isSome

/-- Takes the oldest delivery of the queue, if there is one. A delivery that does not concern the
feed leads to no update. -/
def take (f : LiveFeed) (now : Time.Instant) : Option (Option Update × LiveFeed) :=
  match f.queue with
  | [] => none
  | d :: rest =>
    let f := { f with queue := rest }
    if f.concerns d then
      let (update, f) := f.accept now d.message
      some (some update, f)
    else some (none, f)

/-- The queue is empty and has no sender left, so that waiting for a delivery ends with none. -/
def isClosed (f : LiveFeed) : Bool := f.queue.isEmpty && f.senders == 0

end LiveFeed

end CameraFeed.Feed
