import CameraFeed.Config.Environment
import CameraFeed.Config.Reader
import CameraFeed.Feed.Live
import CameraFeed.Push.Transport

/-! # Settings — how the program is set up

  Settings are laid over one another: those of a file that has to be there, those of a local file,
  and those of the environment. They come in two groups, one for the program itself and one for the
  server it talks to. -/

namespace CameraFeed.Config

/-- How much is logged. -/
inductive LogLevel where
  | error
  | warn
  | info
  | debug
  | trace
  deriving DecidableEq, Repr

namespace LogLevel

/-- The levels with their names, the ones that log less first. -/
def names : List (String × LogLevel) :=
  [("error", error), ("warn", warn), ("info", info), ("debug", debug), ("trace", trace)]

/-- The level of a text: a name in any case, or its number from one to five. Any other text is
`info`. -/
def ofText (s : String) : LogLevel :=
  let byNumber := do
    let n ← Decimal.readPlus? Decimal.wordLimit s.toList
    if n = 0 then none else (names[n - 1]?).map Prod.snd
  (byNumber.or (names.lookup (String.ofList (s.toList.map Char.toLower)))).getD info

/-- The name of a level. -/
def text : LogLevel → String
  | error => "ERROR"
  | warn => "WARN"
  | info => "INFO"
  | debug => "DEBUG"
  | trace => "TRACE"

end LogLevel

/-! ### Settings -/

/-- The settings of the program itself. -/
structure Core where
  /-- The size of the queue between the connection and the feed. -/
  channelBufferSize : Nat
  /-- How often the feed is drawn at least. -/
  refreshInterval : Time.Span
  /-- How often the names of the cameras are asked for, as it was set. -/
  directoryInterval : Time.Span
  /-- How much is logged, as it was set. -/
  logLevelText : String
  /-- The most events that are kept. -/
  maxEvents : Option Nat
  deriving DecidableEq, Repr

/-- The settings of the server. -/
structure Api where
  /-- Its address, as it was set. -/
  urlText : String
  /-- Its address for web sockets, as it was set. -/
  webSocketUrlText : String
  /-- What the program identifies itself with, as it was set. -/
  tokenText : Option String
  /-- The first delay before it is connected to again, in milliseconds. -/
  retryMillis : Nat
  /-- The longest such delay. -/
  retryMaxDelay : Time.Span
  /-- How long a connection may be silent. -/
  staleTimeout : Time.Span
  deriving DecidableEq, Repr

/-- All settings. -/
structure Settings where
  core : Core
  api : Api
  deriving DecidableEq, Repr

/-- How often the names of the cameras are asked for. Zero means only once. -/
def Core.directoryRefresh (c : Core) : Option Time.Span :=
  if c.directoryInterval = .zero then none else some c.directoryInterval

/-- How much is logged. -/
def Core.logLevel (c : Core) : LogLevel := .ofText c.logLevelText

/-- An address without the slashes at its end. -/
def withoutSlashes (s : String) : String :=
  String.ofList (s.toList.reverse.dropWhile (· == '/')).reverse

/-- The address of the server. -/
def Api.url (a : Api) : String := withoutSlashes a.urlText

/-- The address of the server for web sockets. -/
def Api.webSocketUrl (a : Api) : String := withoutSlashes a.webSocketUrlText

/-- What the program identifies itself with. An empty text is nothing. -/
def Api.token (a : Api) : Option String := a.tokenText.filter fun s => !s.isEmpty

/-- How a subscription connects again. -/
def Api.retry (a : Api) : Feed.Retry := ⟨a.retryMillis, a.retryMaxDelay⟩

/-- The server as a transport knows it. -/
def Api.server (a : Api) : Push.Server := ⟨a.url, a.webSocketUrl, a.token, a.staleTimeout⟩

/-- The choices for the feed. -/
def Settings.feedOptions (s : Settings) (expanded : Bool) : Feed.Options :=
  ⟨s.api.retry, s.core.channelBufferSize, s.core.maxEvents, expanded⟩

/-! ### Reading -/

/-- The settings of the program itself. -/
def readCore (v : Value) : Except Fault Core := do
  let title := "struct Core"
  let g ← groupOf title v
  let size ← g.part 0 "channel_buffer_size" readWord
  let refresh ← g.part 1 "refresh_interval" readSpan
  let directory ← g.part 2 "directory_refresh_interval" readSpan
  let level ← g.part 3 "log_level" readText
  let most ← g.part 4 "max_events" (readOptional readWord)
  let size ← g.needed title 5 0 "channel_buffer_size" size
  let refresh ← g.needed title 5 1 "refresh_interval" refresh
  let directory ← g.needed title 5 2 "directory_refresh_interval" directory
  .ok ⟨size, refresh, directory, level.getD "info", most.join⟩

/-- The settings of the server. -/
def readApi (v : Value) : Except Fault Api := do
  let title := "struct Api"
  let g ← groupOf title v
  let url ← g.part 0 "url" readText
  let webSocketUrl ← g.part 1 "websocket_url" readText
  let token ← g.part 2 "session_token" (readOptional readText)
  let retry ← g.part 3 "retry_ms" readWord
  let longest ← g.part 4 "retry_max_delay" readSpan
  let stale ← g.part 5 "stale_connection_timeout" readSpan
  let url ← g.needed title 6 0 "url" url
  let webSocketUrl ← g.needed title 6 1 "websocket_url" webSocketUrl
  let retry ← g.needed title 6 3 "retry_ms" retry
  let longest ← g.needed title 6 4 "retry_max_delay" longest
  let stale ← g.needed title 6 5 "stale_connection_timeout" stale
  .ok ⟨url, webSocketUrl, token.join, retry, longest, stale⟩

/-- The settings, read from a merged table. -/
def readSettings (v : Value) : Except Fault Settings := do
  let g := Group.named v.entries
  let core ← g.part 0 "core" readCore
  let api ← g.part 1 "api" readApi
  let core ← g.needed "" 2 0 "core" core
  let api ← g.needed "" 2 1 "api" api
  .ok ⟨core, api⟩

/-! ### Loading -/

/-- The settings of a file. -/
def fileSettings (name text : String) : Except Fault (List (String × Value)) :=
  match Toml.read? text with
  | some entries => .ok (Value.entriesOfToml (.file name) entries)
  | none => .error .unreadable

/-- The name of the settings that have to be there. -/
def mainName : String := "config"

/-- The name of the settings that are laid over them. -/
def localName : String := "config_local"

/-- The name of a file of settings. -/
def fileName (name : String) : String := name ++ ".toml"

/-- Loads the settings from the texts of files and from variables. -/
def load (files : List (String × String)) (environment : List (String × String)) :
    Except Fault Settings := do
  let main ← match files.lookup (fileName mainName) with
    | some text => fileSettings (fileName mainName) text
    | none => .error (.noFile mainName)
  let locals ← match files.lookup (fileName localName) with
    | some text => fileSettings (fileName localName) text
    | none => .ok []
  let v := ((Value.table [] none).setAll main).setAll locals
  readSettings (v.setAll (Environment.settings environment))

end CameraFeed.Config
