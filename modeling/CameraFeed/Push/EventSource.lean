import CameraFeed.EventStream.Frame
import CameraFeed.Push.Client

/-! # EventSource — events over an event stream

  The body of the answer lasts as long as the connection. Its chunks are cut into frames, and each
  frame arrives as soon as it is complete. A body that is silent for longer than `staleTimeout`
  fails. The octets after the last complete frame are dropped when the body ends. -/

namespace CameraFeed.Push

/-- An event source: its client, its address and its limit. -/
structure EventSource where
  client : Http.Client
  address : Url
  /-- The longest silence of a connection. -/
  staleTimeout : Time.Span
  deriving DecidableEq, Repr

namespace EventSource

/-- The path of the events on a server. -/
def path : String := "/api/events"

/-- The source of a server. -/
def new (client : Http.Client) (base : String) (staleTimeout : Time.Span) :
    Except Fault EventSource :=
  match Url.read (base ++ path) with
  | .ok address => .ok ⟨client, address, staleTimeout⟩
  | .error fault => .error (.invalidUrl fault)

/-- The request for a filter. -/
def request (s : EventSource) (filter : Filter) : Http.Request :=
  s.client.request (s.address.withPairs filter.pairs) (some "text/event-stream")

/-- The arrivals of a body, up to the first fault. -/
def arrivals (limit : Time.Span) : EventStream.Decoder → List Http.Part → List Arrival
  | _, [] => []
  | d, .chunk octets :: rest =>
    let (frames, d) := d.push octets
    frames.map (fun frame => .message (.frame frame)) ++ arrivals limit d rest
  | _, .silence :: _ => [.failure (.stale limit)]
  | _, .broken :: _ => [.failure (.request .badBody)]

/-- The result of a reply to a request. -/
def attempt (s : EventSource) (request : Http.Request) (reply : Http.Reply) : Attempt :=
  match reply.body request with
  | .error fault => .refused (.request fault)
  | .ok body => .opened ⟨arrivals s.staleTimeout .new body, true⟩

end EventSource

end CameraFeed.Push
