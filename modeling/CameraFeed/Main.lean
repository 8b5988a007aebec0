import CameraFeed.CommandLine
import CameraFeed.Config.Settings
import CameraFeed.Console.Session
import CameraFeed.Lookup
import Std.Time.DateTime.Timestamp

/-! # Main — the program

  The program reads its options and settings, looks up names and choices, and runs a session on the
  terminal until the lines end or a shutdown is requested. This module holds the clock, the lines
  and the screen. It has no access to a network: every request is answered by `Network.unreachable`,
  and the task connects again after each delay. -/

namespace CameraFeed.Main

open Console (Input Session)

/-! ### The outside -/

/-- The time of day. -/
def wallClock : IO Time.Instant := do
  let passed := (← Std.Time.Timestamp.now).val
  return ⟨passed.second.val, passed.nano.val.toNat⟩

/-- The text of a file, if it can be read. -/
def textOf? (name : String) : IO (Option String) := do
  try
    return some (← IO.FS.readFile name)
  catch _ =>
    return none

/-- The files of settings that are there. -/
def settingsFiles : IO (List (String × String)) := do
  let names := [Config.mainName, Config.localName].map Config.fileName
  let files ← names.mapM fun name => do
    return (← textOf? name).map fun text => (name, text)
  return files.filterMap id

/-- The variables of the environment. -/
def environment : IO (List (String × String)) := do
  try
    let block ← IO.FS.readBinFile "/proc/self/environ"
    return Config.Environment.ofBlock block.toList
  catch _ =>
    return []

/-- The network of the program. -/
def network : Push.Network := .unreachable

/-! ### A run -/

/-- A session and what it runs with. Times are in milliseconds on a clock that only goes on. -/
structure Run where
  session : Session
  settings : Config.Settings
  lookup : Lookup
  endpoint : Push.Endpoint
  /-- When to draw again. -/
  refreshAt : Nat
  /-- When to look up the names again, if ever. -/
  reloadAt : Option Nat
  /-- When the task of a subscription goes on, and of which one. -/
  wakeAt : Option (Nat × Nat)

/-- Writes out what the console wrote. -/
def written (s : Session) : IO Session := do
  if s.console.screen.taken.isEmpty then return s
  let out ← IO.getStdout
  out.putStr s.console.screen.text
  out.flush
  return { s with console := { s.console with screen := s.console.screen.wiped } }

/-- Takes an input. -/
def Run.take (r : Run) (input : Input) : IO Run := do
  let session ← written (r.session.step (← wallClock) input)
  return { r with session := session }

/-- Lets the task of the subscription do what it can. It asks for one connection at most before it
has to wait. -/
def Run.work (r : Run) (now : Nat) : Run :=
  let feed := r.session.feed
  let (feed, _) := feed.workOut (.ofScript [r.endpoint.connect network feed.filter])
  let r := { r with session := { r.session with feed := feed } }
  match feed.task.map Feed.Task.stage, r.wakeAt with
  | some (.waiting delay), none => { r with wakeAt := some (feed.generation, now + delay.millis) }
  | some (.waiting delay), some (generation, time) =>
    if generation ≠ feed.generation then
      { r with wakeAt := some (feed.generation, now + delay.millis) }
    else if time ≤ now then
      { r with session := { r.session with feed := feed.wakeAny.getD feed }, wakeAt := none }
    else r
  | _, _ => r

/-- Takes all deliveries. -/
partial def Run.deliveries (r : Run) : IO Run := do
  let feed := r.session.feed
  if feed.queue.isEmpty && !feed.isClosed || r.session.ending.isSome then return r
  Run.deliveries (← r.take .delivery)

/-- Takes what the timers call for. -/
def Run.timers (r : Run) (now : Nat) : IO Run := do
  let r ← if r.refreshAt ≤ now then do
      let r ← r.take .refresh
      pure { r with refreshAt := now + r.settings.core.refreshInterval.millis }
    else pure r
  match r.reloadAt, r.settings.core.directoryRefresh with
  | some time, some every =>
    if time ≤ now then
      let r ← r.take (.reload (r.lookup.directory network).toOption)
      return { r with reloadAt := some (now + every.millis) }
    else return r
  | _, _ => return r

/-- A line without its end, or that there are no more. -/
def lineInput : Except IO.Error String → Input
  | .error _ => .eof
  | .ok line =>
    if line.isEmpty then .eof
    else
      match line.toList.reverse with
      | '\n' :: '\r' :: rest => .line (String.ofList rest.reverse)
      | '\n' :: rest => .line (String.ofList rest.reverse)
      | _ => .line line

/-- Waits for the next line beside everything else. -/
def nextLine : IO (Task (Except IO.Error String)) := do
  let input ← IO.getStdin
  IO.asTask input.getLine .dedicated

/-- Goes on until the session ends. -/
partial def Run.loop (r : Run) (line : Task (Except IO.Error String)) : IO Run := do
  let r ← (r.work (← IO.monoMsNow)).deliveries
  let r ← r.timers (← IO.monoMsNow)
  let (r, line) ← if ← IO.hasFinished line then do
      let r ← r.take (lineInput line.get)
      if r.session.ending.isSome then return r
      pure (r, ← nextLine)
    else pure (r, line)
  if r.session.ending.isSome then return r
  IO.sleep 20
  r.loop line

/-! ### The beginning -/

/-- Runs the program with options and settings. -/
def run (options : CommandLine.Options) (settings : Config.Settings) : IO UInt32 := do
  match Lookup.new settings.api.url settings.api.token with
  | .error fault =>
    IO.eprintln ("Error: " ++ fault.message)
    return 1
  | .ok lookup =>
    match Push.Endpoint.new options.chosenTransport lookup.client settings.api.server with
    | .error fault =>
      IO.eprintln ("Error: " ++ fault.message)
      return 1
    | .ok endpoint =>
      let console : Console := {
        screen := .sound, clears := !options.noClear
        directory := lookup.directoryOrNone network, choices := lookup.choices network }
      let feed := Feed.LiveFeed.new options.initialFilter (settings.feedOptions options.expanded)
      let session ← written (.start console feed (← wallClock))
      let now ← IO.monoMsNow
      let reloadAt := settings.core.directoryRefresh.map fun every => now + every.millis
      let r : Run := ⟨session, settings, lookup, endpoint, now, reloadAt, none⟩
      let _ ← r.loop (← nextLine)
      return 0

end CameraFeed.Main

open CameraFeed in
/-- Runs the program with the words of its command line. -/
def main (words : List String) : IO UInt32 := do
  match CommandLine.read words (← IO.getEnv "IPCMANVIEW_FILTER") with
  | .error fault =>
    IO.eprintln fault.message
    return if fault.isRequest then 0 else 2
  | .ok options =>
    match Config.load (← Main.settingsFiles) (← Main.environment) with
    | .error fault =>
      IO.eprintln ("Error: " ++ fault.message)
      return 1
    | .ok settings => Main.run options settings
