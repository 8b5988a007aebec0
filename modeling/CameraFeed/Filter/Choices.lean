/-! # Choices — values to choose from

  What a filter can ask for is up to the server. The values it knows are offered when a filter is
  made. -/

namespace CameraFeed

/-- The codes and actions that are known. -/
structure Choices where
  codes : List String
  actions : List String
  deriving DecidableEq, Repr

/-- The message that lists the choices. -/
def Choices.text (c : Choices) : String :=
  "codes: " ++ String.intercalate ", " c.codes ++ "\nactions: " ++ String.intercalate ", " c.actions

end CameraFeed
