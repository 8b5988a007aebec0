import CameraFeed.Device.Basic
import CameraFeed.Filter.Choices
import CameraFeed.Push.Transport

/-! # Lookup — lists that a server keeps

  The names of the cameras and the values to choose from are asked for one list at a time. Without
  a list the program goes on: cameras go by their uuids, and there is nothing to choose from. -/

namespace CameraFeed

/-- Why a list cannot be had. -/
inductive Lookup.Fault where
  | request (fault : Http.Fault)
  /-- The program cannot identify itself with what it was given. -/
  | invalidHeader
  deriving DecidableEq, Repr

/-- The message of a fault. -/
def Lookup.Fault.message : Lookup.Fault → String
  | request fault => fault.message
  | invalidHeader => "API client set an invalid header value: " ++ Http.badHeaderText

/-- Where lists are asked for, and how. -/
structure Lookup where
  client : Http.Client
  /-- The address of the server. -/
  base : String
  deriving DecidableEq, Repr

namespace Lookup

open Push (Network)

/-- The lists of a server. -/
def new (base : String) (token : Option String) : Except Fault Lookup :=
  match Http.Client.new? token with
  | some client => .ok ⟨client, base⟩
  | none => .error .invalidHeader

/-- Asks for what is at a path, and reads it. -/
def ask {α : Type} (l : Lookup) (network : Network) (path : String)
    (read : String → Except Json.Fault α) : Except Http.Fault α :=
  match Url.read (l.base ++ path) with
  | .error _ => .error .badAddress
  | .ok address => do
    let request := l.client.request address none
    let body ← (network.answer request).body request
    let octets ← Http.wholeBody body
    match (Text.Utf8.text? octets).map read with
    | some (.ok a) => .ok a
    | _ => .error .badBody

/-- The cameras. -/
def devices (l : Lookup) (network : Network) : Except Fault (List Device) :=
  (l.ask network "/api/devices" Device.readList).mapError .request

/-- The names of the cameras. -/
def directory (l : Lookup) (network : Network) : Except Fault Directory :=
  .ofDevices <$> l.devices network

/-- A list of texts. -/
def readTexts : String → Except Json.Fault (List String) :=
  Json.readWhole (Json.readArray fun _ => Json.readText)

/-- The known codes. -/
def codes (l : Lookup) (network : Network) : Except Fault (List String) :=
  (l.ask network "/api/event-codes" readTexts).mapError .request

/-- The known actions. -/
def actions (l : Lookup) (network : Network) : Except Fault (List String) :=
  (l.ask network "/api/event-actions" readTexts).mapError .request

/-- The names of the cameras, none if they cannot be had. -/
def directoryOrNone (l : Lookup) (network : Network) : Directory :=
  (l.directory network).toOption.getD .empty

/-- The known codes and actions, none of those that cannot be had. -/
def choices (l : Lookup) (network : Network) : Choices :=
  ⟨(l.codes network).toOption.getD [], (l.actions network).toOption.getD []⟩

end Lookup

end CameraFeed
