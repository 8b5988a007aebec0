import CameraFeed.Feed.Live

/-! # Schedule — the order in which tasks act

  The feed takes the queue until it is empty. Tasks act only while the feed waits on an empty queue,
  and then as far as they can: until the queue is full, nothing arrives, or a delay begins. A delay
  passes when no other step can be taken. Of several tasks the oldest one that can take a step does
  so. -/

namespace CameraFeed.Feed.LiveFeed

open Push (Client)

/-- The number of arrivals that are still to come on the connections that exist. -/
def pending (f : LiveFeed) : Nat :=
  (f.tasks.connections.map fun c => c.arrivals.length).foldr (· + ·) 0

/-- A step of the first task that can take one. -/
def workAny (f : LiveFeed) (client : Client) : Option (LiveFeed × Client) :=
  f.tasks.handles.findSome? fun h => f.work h client

/-- The end of the delay of the first task that waits. -/
def wakeAny (f : LiveFeed) : Option LiveFeed := f.tasks.handles.findSome? f.wake

/-- Steps of the tasks, up to a number of them. -/
def workFor : Nat → LiveFeed → Client → LiveFeed × Client
  | 0, f, client => (f, client)
  | fuel + 1, f, client =>
    match f.workAny client with
    | none => (f, client)
    | some (f, client) => workFor fuel f client

/-- Steps of the tasks until none can take one. Each arrival takes two steps at most, and so does
every other change of a stage. -/
def workOut (f : LiveFeed) (client : Client) : LiveFeed × Client :=
  workFor (2 * (f.pending + client.pending) + 8) f client

/-- Waits for the next update, within a number of turns. There is none once the queue is closed. -/
def receiveWithin (now : Time.Instant) : Nat → LiveFeed → Client → Option Update × LiveFeed × Client
  | 0, f, client => (none, f, client)
  | fuel + 1, f, client =>
    match f.take now with
    | some (some update, f) => (some update, f, client)
    | some (none, f) => receiveWithin now fuel f client
    | none =>
      if f.isClosed then (none, f, client)
      else
        let (f, client) := f.workOut client
        if f.queue.isEmpty then
          match f.wakeAny with
          | some f => receiveWithin now fuel f client
          | none => (none, f, client)
        else receiveWithin now fuel f client

/-- Waits for the next update, as long as a task can act or the queue is not empty. Each delivery in
the queue takes a turn, and a task needs four turns to deliver. -/
def receive (f : LiveFeed) (now : Time.Instant) (client : Client) :
    Option Update × LiveFeed × Client :=
  receiveWithin now (f.queue.length + 4) f client

/-- All updates until there is none, up to a number of them. -/
def receiveAll (now : Time.Instant) : Nat → LiveFeed → Client → List Update × LiveFeed × Client
  | 0, f, client => ([], f, client)
  | fuel + 1, f, client =>
    match f.receive now client with
    | (none, f, client) => ([], f, client)
    | (some update, f, client) =>
      let (updates, f, client) := receiveAll now fuel f client
      (update :: updates, f, client)

/-- All updates until there is none. An attempt leads to three updates at most beside those of its
arrivals. -/
def drain (f : LiveFeed) (now : Time.Instant) (client : Client) :
    List Update × LiveFeed × Client :=
  receiveAll now (f.queue.length + f.pending + 3 * client.pending + 8) f client

/-- The tasks go on while the queue is not read, up to a number of delays. -/
def workAlone : Nat → LiveFeed → Client → LiveFeed × Client
  | 0, f, client => (f, client)
  | fuel + 1, f, client =>
    let (f, client) := f.workOut client
    match f.wakeAny with
    | some f => workAlone fuel f client
    | none => (f, client)

end CameraFeed.Feed.LiveFeed
