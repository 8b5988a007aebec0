import CameraFeed.Console.Screen
import CameraFeed.Console.Status
import CameraFeed.Feed.Command
import CameraFeed.Feed.Table
import CameraFeed.Filter.Choices

/-! # Console — the front end of the feed

  The console draws the feed on its screen and carries out commands. A command has its effect on the
  feed before any output is written, so a screen that fails does not undo it. -/

namespace CameraFeed

open Feed (Command LiveFeed)
open Console (Output Screen)

/-- The front end of the feed. -/
structure Console where
  screen : Screen
  /-- Each drawing starts on an empty screen. -/
  clears : Bool
  /-- The names of the cameras. -/
  directory : Directory
  choices : Choices

namespace Console

/-- The result of a write to the screen, with the reason if it failed. -/
abbrev Outcome := Except String Unit

/-- The text that empties a screen and goes back to its corner. -/
def clearText : String := "\x1b[2J\x1b[H"

/-- Writes outputs to the screen, up to the first one that fails. -/
def put (c : Console) (outputs : List Output) : Console × Outcome :=
  let (screen, outcome) := c.screen.putAll outputs
  ({ c with screen := screen }, outcome)

/-- The outputs that draw the feed. -/
def drawing (c : Console) (f : LiveFeed) (now : Time.Instant) : List Output :=
  (if c.clears then [.write clearText] else [])
    ++ [.write (statusLine f now ++ "\n"), .write (Feed.Table.text (f.rows c.directory now)),
      .flush]

/-- Draws the feed. -/
def draw (c : Console) (f : LiveFeed) (now : Time.Instant) : Console × Outcome :=
  c.put (c.drawing f now)

/-- Shows a message. -/
def message (c : Console) (text : String) : Console × Outcome :=
  c.put [.write (text ++ "\n"), .flush]

/-- Replaces the directory and draws. Without a new directory nothing changes. -/
def reload (c : Console) (f : LiveFeed) (now : Time.Instant) : Option Directory → Console × Outcome
  | none => (c, .ok ())
  | some directory => { c with directory := directory }.draw f now

/-! ### Commands -/

/-- The reply to a command. -/
inductive Reply where
  | draw
  | message (text : String)
  | nothing
  deriving DecidableEq, Repr

/-- The feed after a command, and the reply. -/
def perform (c : Console) (f : LiveFeed) : Command → LiveFeed × Reply
  | .devices uuids => (f.setDevices uuids, .draw)
  | .codes codes => (f.setCodes codes, .draw)
  | .actions actions => (f.setActions actions, .draw)
  | .filter filter => (f.setFilter filter, .draw)
  | .expand => (f.setAll true, .draw)
  | .collapse => (f.setAll false, .draw)
  | .toggle row =>
    match f.toggleRow row with
    | (some _, f) => (f, .draw)
    | (none, f) => (f, .message ("No row " ++ Decimal.text row))
  | .share => (f, .message f.filter.toQuery)
  | .choices => (f, .message c.choices.text)
  | .help => (f, .message Command.helpText)
  | .quit => (f, .nothing)

/-- Gives a reply. -/
def reply (c : Console) (f : LiveFeed) (now : Time.Instant) : Reply → Console × Outcome
  | .draw => c.draw f now
  | .message text => c.message text
  | .nothing => (c, .ok ())

/-- Carries out a command. -/
def execute (c : Console) (f : LiveFeed) (now : Time.Instant) (command : Command) :
    Console × LiveFeed × Outcome :=
  let (f, reply) := c.perform f command
  let (c, outcome) := c.reply f now reply
  (c, f, outcome)

end Console

end CameraFeed
