import CameraFeed.Feed.Live
import CameraFeed.Time.Uptime

/-! # Status — the line above the table

  The line shows the state of the connection, the filter, the number of events and the default
  setting of the rows. -/

namespace CameraFeed.Console

open Feed (ConnectionState LiveFeed)

/-- The state of the connection, and since when it is open. -/
def connectionText (f : LiveFeed) (now : Time.Instant) : String :=
  match f.state, f.openSince with
  | .opened, some since => "🟢 open for " ++ Time.uptime (now.secondsSince since).toNat
  | .opened, none => "🟢 open"
  | .connecting, _ => "🟡 connecting"
  | .idle, _ => "⚪ idle"
  | .closed, _ => "🟠 closed, reconnecting"
  | .errored, _ => "🔴 disconnected, reconnecting"

/-- The filter as a query. -/
def filterText (f : Filter) : String :=
  let query := f.toQuery
  if query.isEmpty then "none" else query

/-- The line above the table. -/
def statusLine (f : LiveFeed) (now : Time.Instant) : String :=
  connectionText f now ++ " | filter: " ++ filterText f.filter ++ " | "
    ++ Decimal.text f.buffer.events.length ++ " event(s), "
    ++ (if f.projection.byDefault then "expanded" else "collapsed")

end CameraFeed.Console
