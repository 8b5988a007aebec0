import CameraFeed.Push.EventSource
import CameraFeed.Push.WebSocket

/-! # Transport — event streams and web sockets

  There are two transports, each with an address of its own on the server. `Endpoint.connect` sends
  the request for a filter to a `Network`, which is a function of the request. -/

namespace CameraFeed.Push

/-- The transport of a connection. -/
inductive Transport where
  | eventStream
  | webSocket
  deriving DecidableEq, Repr

namespace Transport

/-- The name of a transport. -/
def name : Transport → String
  | eventStream => "sse"
  | webSocket => "websocket"

/-- The transport of a name. -/
def ofName? (s : String) : Option Transport := [eventStream, webSocket].find? fun t => t.name == s

end Transport

/-! ### Networks -/

/-- A network, as the reply to each request. -/
structure Network where
  answer : Http.Request → Http.Reply
  handshake : Http.Request → Handshake

/-- The reason that the system gives when it has no route to an address. -/
def noRoute : String := "Network is unreachable (os error 101)"

/-- A network without a route to any server. -/
def Network.unreachable : Network := ⟨fun _ => .unreachable, fun _ => .unreachable noRoute⟩

/-! ### Endpoints -/

/-- An event source or a web socket. -/
inductive Endpoint where
  | eventSource (s : EventSource)
  | webSocket (w : WebSocket)
  deriving DecidableEq, Repr

/-- The settings of a server. -/
structure Server where
  /-- Its address. -/
  url : String
  /-- Its address for web sockets. -/
  webSocketUrl : String
  /-- The token of the program. -/
  token : Option String
  /-- The longest silence of an event stream. -/
  staleTimeout : Time.Span

namespace Endpoint

/-- The endpoint of a transport on a server. -/
def new (t : Transport) (client : Http.Client) (server : Server) : Except Fault Endpoint :=
  match t with
  | .eventStream => eventSource <$> EventSource.new client server.url server.staleTimeout
  | .webSocket => webSocket <$> WebSocket.new server.webSocketUrl server.token

/-- The transport of an endpoint. -/
def transport : Endpoint → Transport
  | eventSource _ => .eventStream
  | webSocket _ => .webSocket

/-- Connects for a filter. -/
def connect (e : Endpoint) (network : Network) (filter : Filter) : Attempt :=
  match e with
  | eventSource s =>
    let request := s.request filter
    s.attempt request (network.answer request)
  | webSocket w =>
    match w.request filter with
    | .error fault => .refused fault
    | .ok request => WebSocket.attempt request (network.handshake request)

end Endpoint

end CameraFeed.Push
