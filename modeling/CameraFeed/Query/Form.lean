import CameraFeed.Query.Percent
import CameraFeed.Text.Pieces

/-! # Form — pairs of a query

  A query is a list of pairs of a name and a value, `name=value`, with `&` between them. Letters,
  digits and four marks stand for themselves, a space is written as `+`, and every other octet with
  a percent sign. A reader takes any text: a pair without `=` has an empty value, and a pair without
  a character is none. -/

namespace CameraFeed.Query

/-- A name and a value. -/
abbrev Pair := String × String

/-! ### Writing -/

/-- The octet stands for itself. -/
def standsForItself (b : UInt8) : Bool :=
  let n := b.toNat
  (0x30 ≤ n && n ≤ 0x39) || (0x41 ≤ n && n ≤ 0x5A) || (0x61 ≤ n && n ≤ 0x7A)
    || n == 0x2A || n == 0x2D || n == 0x2E || n == 0x5F

/-- An octet of a name or a value. -/
def writtenOctet (b : UInt8) : List Char :=
  if standsForItself b then [Char.ofNat b.toNat]
  else if b.toNat = 0x20 then ['+']
  else escapedOctet b

/-- A name or a value. -/
def writtenPart (s : String) : List Char := (Text.Utf8.octets s).flatMap writtenOctet

/-- A pair. -/
def writtenPair (p : Pair) : List Char := writtenPart p.1 ++ '=' :: writtenPart p.2

/-- Pairs with `&` between them. -/
def written : List Pair → List Char
  | [] => []
  | [p] => writtenPair p
  | p :: rest => writtenPair p ++ '&' :: written rest

/-- The query of a list of pairs. -/
def text (ps : List Pair) : String := String.ofList (written ps)

/-! ### Reading -/

/-- The octets of a name or a value: a plus sign is a space, before anything else is put in. -/
def partOctets (cs : List Char) : List UInt8 :=
  percentDecoded ((Text.Utf8.encode cs).map fun b => if b.toNat = 0x2B then 0x20 else b)

/-- A name or a value. Octets that are no text become replacement characters. -/
def partOf (cs : List Char) : String := Text.Utf8.text (partOctets cs)

/-- The pair that stands between two `&`. -/
def pairOf (cs : List Char) : Pair :=
  (partOf (cs.takeWhile (· != '=')), partOf ((cs.dropWhile (· != '=')).drop 1))

/-- The pairs of a query. -/
def pairs (cs : List Char) : List Pair :=
  ((Text.pieces (· == '&') cs).filter fun piece => !piece.isEmpty).map pairOf

end CameraFeed.Query
