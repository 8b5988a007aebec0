import CameraFeed.Text.Utf8

/-! # Percent — octets written with a percent sign

  An octet that cannot stand for itself is written as `%` and two digits of base 16. A percent sign
  that two such digits do not follow stands for itself. -/

namespace CameraFeed.Query

/-- A digit of base 16, letters in upper case. -/
def upperHex (n : Nat) : Char := (Nat.digitChar n).toUpper

/-- An octet as a percent sign and two digits. -/
def escapedOctet (b : UInt8) : List Char := ['%', upperHex (b.toNat / 16), upperHex (b.toNat % 16)]

/-- A text with the characters of a set written as the octets they are made of. -/
def percentEncoded (mustEscape : Char → Bool) (cs : List Char) : List Char :=
  cs.flatMap fun c =>
    if mustEscape c then (String.utf8EncodeChar c).flatMap escapedOctet else [c]

/-- The number that an octet stands for as a digit of base 16. -/
def octetHex? (b : UInt8) : Option Nat :=
  let n := b.toNat
  if 0x30 ≤ n ∧ n ≤ 0x39 then some (n - 0x30)
  else if 0x41 ≤ n ∧ n ≤ 0x46 then some (n - 0x37)
  else if 0x61 ≤ n ∧ n ≤ 0x66 then some (n - 0x57)
  else none

/-- The percent sign as an octet. -/
def percentSign : UInt8 := 0x25

/-- Octets with the escaped ones put in. -/
def percentDecoded : List UInt8 → List UInt8
  | [] => []
  | b :: rest =>
    if b = percentSign then
      match rest with
      | high :: low :: rest' =>
        match octetHex? high, octetHex? low with
        | some h, some l => UInt8.ofNat (16 * h + l) :: percentDecoded rest'
        | _, _ => b :: percentDecoded (high :: low :: rest')
      | rest => b :: percentDecoded rest
    else b :: percentDecoded rest

end CameraFeed.Query
