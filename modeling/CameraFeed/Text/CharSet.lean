import CameraFeed.Text.Blank

/-! # CharSet — sets of characters

  A property that has no rule is kept as a table: the stretches of code points that have it, in
  order. A stretch is written in base 16, as its first and its last code point with a hyphen between
  them, or as its only one. -/

namespace CameraFeed.Text

/-! ### Numbers of a table -/

/-- The number that a digit of base 16 stands for, letters in upper case. -/
def hexDigit (c : Char) : Nat := if c.toNat < 0x41 then c.toNat - 0x30 else c.toNat - 0x37

/-- The number that digits of base 16 stand for. -/
def hexNumber (ds : List Char) : Nat := ds.foldl (fun n d => 16 * n + hexDigit d) 0

/-! ### Sets -/

/-- Code points in a row, both ends included. -/
structure Stretch where
  first : Nat
  last : Nat
  deriving DecidableEq, Repr

/-- A stretch in its written form. -/
def Stretch.read (cs : List Char) : Stretch :=
  match pieces (· == '-') cs with
  | [first, last] => ⟨hexNumber first, hexNumber last⟩
  | _ => ⟨hexNumber cs, hexNumber cs⟩

/-- A set of characters. -/
structure CharSet where
  stretches : List Stretch
  deriving DecidableEq, Repr

/-- The set of the stretches in the lines of a table. -/
def CharSet.read (lines : List String) : CharSet :=
  ⟨lines.flatMap fun line => (words line.toList).map Stretch.read⟩

/-- The character is in the set. -/
def CharSet.contains (s : CharSet) (c : Char) : Bool :=
  s.stretches.any fun r => r.first ≤ c.toNat && c.toNat ≤ r.last

end CameraFeed.Text
