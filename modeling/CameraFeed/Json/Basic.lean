import CameraFeed.Binary64.Basic

/-! # Json — values of the data format

  A number is a whole number as far as 64 bits reach, signed or not, and a floating-point number
  otherwise. The members of an object are kept in the order of their names, each name once. -/

namespace CameraFeed

/-- A number of the format. -/
inductive Json.Number where
  /-- A whole number that fits 64 bits. -/
  | integer (n : Int)
  /-- Any other number. -/
  | float (x : Binary64)
  deriving DecidableEq, Repr

/-- A value of the format. -/
inductive Json where
  | null
  | boolean (b : Bool)
  | number (n : Json.Number)
  | text (s : String)
  | array (items : List Json)
  | object (members : List (String × Json))
  deriving Repr, Inhabited

namespace Json

/-- Puts a member into members ordered by name. One of the same name is replaced. -/
def insertMember (name : String) (value : Json) : List (String × Json) → List (String × Json)
  | [] => [(name, value)]
  | (n, v) :: rest =>
    if name < n then (name, value) :: (n, v) :: rest
    else if name = n then (name, value) :: rest
    else (n, v) :: insertMember name value rest

/-- The numbers of a signed word of 64 bits. -/
def fitsSigned (n : Int) : Bool := -(Nat.pow 2 63 : Int) ≤ n && n < (Nat.pow 2 63 : Int)

end Json

end CameraFeed
