/-! # Numeral — whole numbers in decimal digits

  Numbers are written without leading zeros. A reader takes digits only, leading zeros among them,
  an optional plus sign where it says so, and no number at or above the limit it is given. -/

namespace CameraFeed.Decimal

/-- One of the ten ASCII digits. -/
def isDigit (c : Char) : Bool := 48 ≤ c.toNat && c.toNat ≤ 57

/-- The number a digit stands for. -/
def digitValue (c : Char) : Nat := c.toNat - 48

/-- The number that digits stand for. -/
def value (ds : List Char) : Nat := ds.foldl (fun n d => 10 * n + digitValue d) 0

/-- The digits of a number, the most significant one first. -/
def digits (n : Nat) : List Char := Nat.toDigits 10 n

/-- A number as text. -/
def text (n : Nat) : String := String.ofList (digits n)

/-- A number as characters, with a minus sign when it is negative. -/
def signedDigits (n : Int) : List Char :=
  if n < 0 then '-' :: digits n.natAbs else digits n.natAbs

/-- A number as text, with a minus sign when it is negative. -/
def signedText (n : Int) : String := String.ofList (signedDigits n)

/-- A number as digits, with zeros in front up to the given width. -/
def padded (width n : Nat) : List Char :=
  List.replicate (width - (digits n).length) '0' ++ digits n

/-- The number below `limit` that is written as one or more digits and nothing else. -/
def read? (limit : Nat) (cs : List Char) : Option Nat :=
  if cs ≠ [] ∧ cs.all isDigit ∧ value cs < limit then some (value cs) else none

/-- As `read?`, after an optional plus sign. -/
def readPlus? (limit : Nat) : List Char → Option Nat
  | '+' :: cs => read? limit cs
  | cs => read? limit cs

/-- One more than the largest number of 64 bits. -/
def wordLimit : Nat := Nat.pow 2 64

end CameraFeed.Decimal
