import CameraFeed.Console.Basic
import CameraFeed.Feed.Schedule

/-! # Session — a run of the console

  `Session.start` subscribes and draws; `Session.step` then takes one input after another. It draws
  after each update, on each refresh and after a directory was loaded, and carries out the lines
  that are commands. A session is finished when the lines end, on the command to quit, on a
  shutdown, or when the queue of the feed is closed, and shuts its feed down then. An output that
  fails ends the session at once, without a shutdown. -/

namespace CameraFeed.Console

open Feed (Command LiveFeed)
open Push (Client)

/-- An input of a session. -/
inductive Input where
  /-- The oldest delivery in the queue of the feed, if there is one. -/
  | delivery
  | line (text : String)
  /-- The end of the lines. -/
  | eof
  /-- The refresh interval has passed. -/
  | refresh
  /-- The directory was loaded again; `none` if that failed. -/
  | reload (directory : Option Directory)
  | shutdown

/-- How a session ended. -/
inductive Ending where
  /-- The feed was shut down. -/
  | finished
  /-- An output failed. -/
  | failed (reason : String)
  deriving DecidableEq, Repr

/-- A run of the console. -/
structure Session where
  console : Console
  feed : LiveFeed
  /-- `none` while the session runs. -/
  ending : Option Ending

namespace Session

/-- The session after an output with a result. -/
def resume (console : Console) (feed : LiveFeed) (outcome : Outcome) : Session :=
  ⟨console, feed, match outcome with
    | .ok () => none
    | .error reason => some (.failed reason)⟩

/-- Draws the feed. -/
def drawn (console : Console) (feed : LiveFeed) (now : Time.Instant) : Session :=
  let (console, outcome) := console.draw feed now
  resume console feed outcome

/-- The session after the first drawing. -/
def start (console : Console) (feed : LiveFeed) (now : Time.Instant) : Session :=
  drawn console feed.subscribe now

/-- Shuts the feed down. -/
def finish (s : Session) : Session := { s with feed := s.feed.shutdown, ending := some .finished }

/-- Carries out a line. One without words changes nothing, and the fault of one that is no command
is shown. -/
def takeLine (s : Session) (now : Time.Instant) (line : String) : Session :=
  match Command.read line with
  | .ok .quit => s.finish
  | .ok command =>
    let (console, feed, outcome) := s.console.execute s.feed now command
    resume console feed outcome
  | .error .empty => s
  | .error fault =>
    let (console, outcome) := s.console.message fault.message
    resume console s.feed outcome

/-- The session after an input, while it runs. -/
def advance (s : Session) (now : Time.Instant) : Input → Session
  | .delivery =>
    match s.feed.take now with
    | none => if s.feed.isClosed then s.finish else s
    | some (none, feed) => { s with feed := feed }
    | some (some _, feed) => drawn s.console feed now
  | .line text => s.takeLine now text
  | .eof => s.finish
  | .refresh => drawn s.console s.feed now
  | .reload directory =>
    let (console, outcome) := s.console.reload s.feed now directory
    resume console s.feed outcome
  | .shutdown => s.finish

/-- The session after an input. One that has ended stays as it is. -/
def step (s : Session) (now : Time.Instant) (input : Input) : Session :=
  match s.ending with
  | some _ => s
  | none => s.advance now input

/-! ### Scheduling -/

/-- Takes deliveries until no task can take a step, within a number of turns. -/
def settleWithin (now : Time.Instant) : Nat → Session → Client → Session × Client
  | 0, s, client => (s, client)
  | fuel + 1, s, client =>
    match s.ending with
    | some _ =>
      let (feed, client) := s.feed.workAlone (s.feed.capacity + 1) client
      ({ s with feed := feed }, client)
    | none =>
      if s.feed.queue.isEmpty && !s.feed.isClosed then
        let (feed, client) := s.feed.workOut client
        if feed.queue.isEmpty then
          match feed.wakeAny with
          | some feed => settleWithin now fuel { s with feed := feed } client
          | none => ({ s with feed := feed }, client)
        else settleWithin now fuel { s with feed := feed } client
      else settleWithin now fuel (s.step now .delivery) client

/-- Takes deliveries until no task can take a step. Each attempt takes a few turns, and so does each
arrival. -/
def settle (s : Session) (now : Time.Instant) (client : Client) : Session × Client :=
  settleWithin now (2 * s.feed.queue.length + 2 * s.feed.pending + 8 * client.pending + 16) s client

end Session

end CameraFeed.Console
