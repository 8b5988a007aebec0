import CameraFeed.Filter.ValueSet
import CameraFeed.Query.Form

/-! # Filter — which events a subscription receives

  A filter has three dimensions: cameras, codes and actions. A dimension without values lets every
  event through. A filter is shared as a query, in which each value is a pair of its own, the
  dimensions one after another and the values of each in order. -/

namespace CameraFeed

open CameraFeed.Filter (ValueSet)

/-- The criteria for the events of a subscription. -/
structure Filter where
  /-- The uuids of cameras. -/
  devices : ValueSet
  codes : ValueSet
  actions : ValueSet
  deriving DecidableEq

namespace Filter

/-- The filter that lets every event through. -/
def empty : Filter := ⟨.empty, .empty, .empty⟩

instance : Inhabited Filter := ⟨empty⟩

/-- The filter of typed values. -/
def ofTyped (devices codes actions : List String) : Filter :=
  ⟨.ofTyped devices, .ofTyped codes, .ofTyped actions⟩

/-- No dimension has a value. -/
def isEmpty (f : Filter) : Bool := f.devices.isEmpty && f.codes.isEmpty && f.actions.isEmpty

/-- The values of both filters, dimension by dimension. -/
def merge (f g : Filter) : Filter :=
  ⟨f.devices.union g.devices, f.codes.union g.codes, f.actions.union g.actions⟩

/-! ### As a query -/

/-- The name of the dimension of cameras. -/
def devicesKey : String := "device-uuids"

/-- The name of the dimension of codes. -/
def codesKey : String := "codes"

/-- The name of the dimension of actions. -/
def actionsKey : String := "actions"

/-- The values as pairs. -/
def pairs (f : Filter) : List Query.Pair :=
  f.devices.values.map (devicesKey, ·) ++ f.codes.values.map (codesKey, ·)
    ++ f.actions.values.map (actionsKey, ·)

/-- The filter as a query. -/
def toQuery (f : Filter) : String := Query.text f.pairs

/-- Adds the value of a pair. Empty values and unknown names have no meaning. -/
def addPair (f : Filter) (p : Query.Pair) : Filter :=
  if p.2.isEmpty then f
  else if p.1 = devicesKey then { f with devices := f.devices.insert p.2 }
  else if p.1 = codesKey then { f with codes := f.codes.insert p.2 }
  else if p.1 = actionsKey then { f with actions := f.actions.insert p.2 }
  else f

/-- The filter of a query. Leading question marks are ignored. -/
def ofQuery (query : String) : Filter :=
  (Query.pairs (query.toList.dropWhile (· == '?'))).foldl addPair empty

end Filter

end CameraFeed
