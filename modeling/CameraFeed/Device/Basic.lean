import CameraFeed.Json.Record

/-! # Device — cameras and their names

  A camera is identified by its uuid. The directory maps uuids to display names. -/

namespace CameraFeed

/-- A camera and its name. -/
structure Device where
  uuid : String
  name : String
  deriving DecidableEq, Repr

/-- The names of cameras. Each uuid is there once. -/
structure Directory where
  names : List (String × String)
  deriving DecidableEq, Repr

namespace Directory

/-- No names. -/
def empty : Directory := ⟨[]⟩

/-- Puts a name in, in the place of an earlier one for the same camera. -/
def put (uuid name : String) : List (String × String) → List (String × String)
  | [] => [(uuid, name)]
  | (u, n) :: rest => if u = uuid then (u, name) :: rest else (u, n) :: put uuid name rest

/-- The directory of a list of cameras. The last name of a camera is the one that counts. -/
def ofDevices (devices : List Device) : Directory :=
  ⟨devices.foldl (fun names d => put d.uuid d.name names) []⟩

/-- The name of a camera, or its uuid when it has none. -/
def displayName (d : Directory) (uuid : String) : String := (d.names.lookup uuid).getD uuid

/-- The number of cameras with a name. -/
def size (d : Directory) : Nat := d.names.length

end Directory

namespace Device

/-! ### In text -/

/-- The fields of a camera read so far. -/
structure Draft where
  uuid : Option String
  name : Option String

/-- What has to be there of a field, by name. -/
def needed {α : Type} (name : String) : Option α → Except String α
  | some a => .ok a
  | none => .error name

/-- The shape of a camera in text. -/
def shape : Json.Shape Draft Device where
  title := "struct Device"
  blank := ⟨none, none⟩
  fields := [
    ⟨"uuid", false, (·.uuid.isSome), fun _ d c => do
      let (s, c) ← Json.readText c
      .ok ({ d with uuid := some s }, c)⟩,
    ⟨"name", false, (·.name.isSome), fun _ d c => do
      let (s, c) ← Json.readText c
      .ok ({ d with name := some s }, c)⟩]
  finish d := do
    let uuid ← needed "uuid" d.uuid
    let name ← needed "name" d.name
    .ok ⟨uuid, name⟩

/-- The cameras that a text lists. -/
def readList (s : String) : Except Json.Fault (List Device) :=
  Json.readWhole (Json.readArray shape.reader) s

end Device

end CameraFeed
