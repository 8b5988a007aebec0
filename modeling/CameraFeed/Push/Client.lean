import CameraFeed.Filter.Basic
import CameraFeed.Http.Basic
import CameraFeed.Push.Message
import CameraFeed.Time.Span

/-! # Client — the connections that a task asks for

  A client is a script of attempts: each call of `connect` takes the next one, which is refused or
  gives a connection with its arrivals. Attempts beyond the script open and stay silent. The client
  records the filter of each call. -/

namespace CameraFeed.Push

/-! ### Faults -/

/-- Why a web socket failed. -/
inductive SocketFault where
  /-- The server cannot be reached. The system says why. -/
  | unreachable (reason : String)
  /-- The scheme of the address is not one of a web socket. -/
  | scheme
  /-- A header or a message is not valid text. -/
  | encoding
  /-- The server answered with a status instead of opening the socket. -/
  | refused (status : Nat)
  /-- The connection was lost without a close frame. -/
  | broken
  deriving DecidableEq, Repr

/-- The message of a fault of a web socket. -/
def SocketFault.message : SocketFault → String
  | unreachable reason => "IO error: " ++ reason
  | scheme => "URL error: URL scheme not supported"
  | encoding => "UTF-8 encoding error"
  | refused status => "HTTP error: " ++ Http.Status.text status
  | broken => "WebSocket protocol error: Connection reset without closing handshake"

/-- Why a connection failed. -/
inductive Fault where
  | request (fault : Http.Fault)
  | webSocket (fault : SocketFault)
  | invalidUrl (fault : Url.Fault)
  /-- The token cannot be sent in a header. -/
  | invalidHeader
  /-- Nothing arrived for longer than the limit. -/
  | stale (limit : Time.Span)
  deriving DecidableEq, Repr

/-- The message of a fault. -/
def Fault.message : Fault → String
  | request fault => fault.message
  | webSocket fault => "websocket error: " ++ fault.message
  | invalidUrl fault => "invalid url: " ++ fault.message
  | invalidHeader => "invalid header value: " ++ Http.badHeaderText
  | stale limit => "no data for " ++ Decimal.text limit.seconds ++ " seconds"

/-! ### Connections -/

/-- What arrives on an open connection. -/
inductive Arrival where
  | message (m : Message)
  /-- The connection fails. Nothing after this is read. -/
  | failure (fault : Fault)
  deriving DecidableEq, Repr

/-- An open connection, with the arrivals that were not read yet. -/
structure Connection where
  arrivals : List Arrival
  /-- After the arrivals the connection ends. Otherwise it stays open and silent. -/
  ends : Bool
  deriving DecidableEq, Repr

/-- A connection on which nothing arrives. -/
def Connection.silent : Connection := ⟨[], false⟩

/-- The result of an attempt to connect. -/
inductive Attempt where
  | refused (fault : Fault)
  | opened (connection : Connection)
  deriving DecidableEq, Repr

/-- The script of a client and the calls so far. -/
structure Client where
  /-- The results of the next attempts. -/
  script : List Attempt
  /-- The filters of the calls, the last one first. -/
  asked : List Filter

namespace Client

/-- A client before the first call. -/
def ofScript (script : List Attempt) : Client := ⟨script, []⟩

/-- Asks for a connection. -/
def connect (c : Client) (filter : Filter) : Attempt × Client :=
  match c.script with
  | [] => (.opened .silent, { c with asked := filter :: c.asked })
  | attempt :: rest => (attempt, ⟨rest, filter :: c.asked⟩)

/-- The number of arrivals and ends in all attempts of the script. -/
def pending (c : Client) : Nat :=
  (c.script.map fun
    | .refused _ => 1
    | .opened connection => connection.arrivals.length + 1).foldr (· + ·) 0

end Client

end CameraFeed.Push
