import CameraFeed.Binary64.Notation

/-! # Toml — values of a settings file

  Dates and times are kept as text. Of each name a table has at most one entry. -/

namespace CameraFeed

/-- A floating-point number, finite or not. -/
inductive Toml.Float where
  | finite (x : Binary64)
  | infinite (negative : Bool)
  | notANumber
  deriving DecidableEq, Repr

/-- A value of a settings file. -/
inductive Toml where
  | text (s : String)
  /-- A whole number of a signed word of 64 bits. -/
  | integer (n : Int)
  | float (x : Toml.Float)
  | boolean (b : Bool)
  /-- A date, a time or both. -/
  | moment (s : String)
  | array (items : List Toml)
  | table (entries : List (String × Toml))
  deriving Repr, Inhabited

namespace Toml

/-- A number as text, all its zeros written out. -/
def Float.text (style : Binary64.Style) : Float → String
  | finite x => String.ofList (Binary64.write style x)
  | infinite negative => if negative then "-inf" else "inf"
  | notANumber => "NaN"

end Toml

end CameraFeed
