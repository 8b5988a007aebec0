import CameraFeed.Push.Client

/-! # WebSocket — events over a web socket

  A socket is opened by a handshake. Of the messages after it only the texts are read, and a close
  frame ends the connection. There is no limit to the silence of a socket. -/

namespace CameraFeed.Push

/-- An item that arrives on a socket. -/
inductive Incoming where
  | text (s : String)
  /-- A message that is neither a text nor a close frame. -/
  | other
  /-- Nothing arrived for a time. -/
  | silence
  /-- A close frame. -/
  | close
  | failure (fault : SocketFault)
  deriving DecidableEq, Repr

/-- The result of a handshake. -/
inductive Handshake where
  /-- The server cannot be reached. The system says why. -/
  | unreachable (reason : String)
  /-- The server can be reached and answers with a status. -/
  | refused (status : Nat)
  /-- The socket is open. -/
  | opened (incoming : List Incoming)
  deriving DecidableEq, Repr

/-- The address and the token of a socket. -/
structure WebSocket where
  address : Url
  /-- The token that the handshake sends. -/
  token : Option String
  deriving DecidableEq, Repr

namespace WebSocket

/-- The path of the socket on a server. -/
def path : String := "/v1/ws"

/-- The schemes of web sockets. -/
def schemes : List (List Char) := ["ws".toList, "wss".toList]

/-- The socket of a server. -/
def new (base : String) (token : Option String) : Except Fault WebSocket :=
  match Url.read (base ++ path) with
  | .ok address => .ok ⟨address, token⟩
  | .error fault => .error (.invalidUrl fault)

/-- The request for a filter, unless its token cannot be sent. -/
def request (w : WebSocket) (filter : Filter) : Except Fault Http.Request :=
  match Http.Client.new? w.token with
  | some client => .ok (client.request (w.address.withPairs filter.pairs) none)
  | none => .error .invalidHeader

/-- The connection of an open socket, up to its end. -/
def connection : List Incoming → Connection
  | [] => .silent
  | .text s :: rest =>
    let c := connection rest
    { c with arrivals := .message (.text s) :: c.arrivals }
  | .other :: rest => connection rest
  | .silence :: rest => connection rest
  | .close :: _ => ⟨[], true⟩
  | .failure fault :: _ => ⟨[.failure (.webSocket fault)], true⟩

/-- The fault that keeps a request from being sent, if there is one. -/
def hindrance? (request : Http.Request) : Option SocketFault :=
  if !schemes.contains request.address.scheme then some .scheme
  else if (request.authorization.getD "").toList.any (fun c => 0x80 ≤ c.toNat) then some .encoding
  else none

/-- The attempt that results from a handshake for a request. -/
def attempt (request : Http.Request) : Handshake → Attempt
  | .unreachable reason => .refused (.webSocket (.unreachable reason))
  | .refused status => .refused (.webSocket ((hindrance? request).getD (.refused status)))
  | .opened incoming =>
    match hindrance? request with
    | some fault => .refused (.webSocket fault)
    | none => .opened (connection incoming)

end WebSocket

end CameraFeed.Push
