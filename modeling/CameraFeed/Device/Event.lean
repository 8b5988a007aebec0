import CameraFeed.Device.Basic
import CameraFeed.Time.Rfc3339

/-! # Event — the events of cameras

  An event is read from an object or an array of its seven fields. Its payload is any value and may
  be left out; each other field is required. The identifier is a number or a text. -/

namespace CameraFeed

open Time

/-- The identifier of an event. -/
inductive EventId where
  /-- A whole number of a signed word. -/
  | number (n : Int)
  | text (s : String)
  deriving DecidableEq, Repr

/-- The identifier as text. -/
def EventId.shown : EventId → String
  | number n => Decimal.signedText n
  | text s => s

/-- A single event of a camera. -/
structure DeviceEvent where
  id : EventId
  /-- The uuid of the camera. -/
  device : String
  /-- What kind of event it is. -/
  code : String
  /-- The action: start, stop, pulse and so on. -/
  action : String
  index : Int
  /-- The payload. -/
  data : Json
  createdAt : Instant
  deriving Repr

namespace DeviceEvent

/-! ### In text -/

/-- The fields of an event read so far. -/
structure Draft where
  id : Option EventId
  device : Option String
  code : Option String
  action : Option String
  index : Option Int
  data : Option Json
  createdAt : Option Instant

/-- The identifier that a value is, if it can be one. -/
def idOf? : Json → Option EventId
  | .number (.integer n) => if Json.fitsSigned n then some (.number n) else none
  | .text s => some (.text s)
  | _ => none

/-- Reads an identifier. -/
def readId (room : Nat) : Json.Reader EventId := fun c => do
  let (v, c) ← Json.readValue room c
  match idOf? v with
  | some id => .ok (id, c)
  | none => .error (.unsettled (.noVariant "EventId") c)

/-- The instant of a text, or why it is none. -/
def instantOf (s : String) : Except String Instant :=
  match Rfc3339.read s.toList with
  | .ok t => .ok t
  | .error e => .error e.message

/-- Reads an instant. -/
def readInstant : Json.Reader Instant :=
  Json.readMeaning "an RFC 3339 formatted date and time string" instantOf

/-- The shape of an event in text. -/
def shape : Json.Shape Draft DeviceEvent where
  title := "struct DeviceEvent"
  blank := ⟨none, none, none, none, none, none, none⟩
  fields := [
    ⟨"id", false, (·.id.isSome), fun room d c => do
      let (id, c) ← readId room c
      .ok ({ d with id := some id }, c)⟩,
    ⟨"device_uuid", false, (·.device.isSome), fun _ d c => do
      let (s, c) ← Json.readText c
      .ok ({ d with device := some s }, c)⟩,
    ⟨"code", false, (·.code.isSome), fun _ d c => do
      let (s, c) ← Json.readText c
      .ok ({ d with code := some s }, c)⟩,
    ⟨"action", false, (·.action.isSome), fun _ d c => do
      let (s, c) ← Json.readText c
      .ok ({ d with action := some s }, c)⟩,
    ⟨"index", false, (·.index.isSome), fun _ d c => do
      let (n, c) ← Json.readSigned c
      .ok ({ d with index := some n }, c)⟩,
    ⟨"data", true, (·.data.isSome), fun room d c => do
      let (v, c) ← Json.readValue room c
      .ok ({ d with data := some v }, c)⟩,
    ⟨"created_at", false, (·.createdAt.isSome), fun _ d c => do
      let (t, c) ← readInstant c
      .ok ({ d with createdAt := some t }, c)⟩]
  finish d := do
    let id ← Device.needed "id" d.id
    let device ← Device.needed "device_uuid" d.device
    let code ← Device.needed "code" d.code
    let action ← Device.needed "action" d.action
    let index ← Device.needed "index" d.index
    let createdAt ← Device.needed "created_at" d.createdAt
    .ok ⟨id, device, code, action, index, d.data.getD .null, createdAt⟩

/-- The event of a text. -/
def read (s : String) : Except Json.Fault DeviceEvent := Json.readWhole shape.reader s

end DeviceEvent

end CameraFeed
