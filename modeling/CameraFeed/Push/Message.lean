import CameraFeed.Device.Event
import CameraFeed.EventStream.Message

/-! # Message — what a server pushes

  Events come over one of two transports: as frames of an event stream, or as texts of a web
  socket. A frame without data is there to keep the connection alive and carries no event. -/

namespace CameraFeed.Push

/-- A message as a transport delivers it, not decoded yet. -/
inductive Message where
  /-- A frame of an event stream. -/
  | frame (s : String)
  /-- A text of a web socket, which is one event. -/
  | text (s : String)
  deriving DecidableEq, Repr

/-- The event that a message carries, if it carries one. -/
def Message.decode : Message → Except Json.Fault (Option DeviceEvent)
  | .frame s => do
    let message ← EventStream.Message.ofFrame DeviceEvent.read s
    .ok message.data
  | .text s => some <$> DeviceEvent.read s

/-- The event of a message that can be decoded and carries one. -/
def Message.event? (m : Message) : Option DeviceEvent :=
  match m.decode with
  | .ok event => event
  | .error _ => none

end CameraFeed.Push
