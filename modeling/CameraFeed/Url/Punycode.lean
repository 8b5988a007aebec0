/-! # Punycode — names of hosts in ASCII

  A label with other characters than those of ASCII is written with its ASCII characters first and
  then, in digits of base 36, where the others belong: in the order of their code points, each as
  the number of places passed since the one before. How many digits a number takes adapts to the
  numbers before it. Reading undoes this, as far as the numbers stay within 32 bits. -/

namespace CameraFeed.Url.Punycode

/-- A digit of base 36, letters first. -/
def digit (d : Nat) : Char := if d < 26 then Char.ofNat (97 + d) else Char.ofNat (22 + d)

/-- The number that a digit of base 36 stands for. -/
def digitValue? (c : Char) : Option Nat :=
  let n := c.toNat
  if 0x61 ≤ n ∧ n ≤ 0x7A then some (n - 0x61)
  else if 0x30 ≤ n ∧ n ≤ 0x39 then some (n - 0x30 + 26)
  else none

/-- The least value of the `k`th digit that does not end a number. -/
def threshold (k bias : Nat) : Nat := max 1 (min 26 (36 * k - bias))

/-- Counts how often a number is divided by 35 until it is at most 455. -/
def shrink (fuel delta k : Nat) : Nat :=
  match fuel with
  | 0 => 36 * k + 36 * delta / (delta + 38)
  | fuel + 1 => if 455 < delta then shrink fuel (delta / 35) (k + 1)
    else 36 * k + 36 * delta / (delta + 38)

/-- The bias after a number. -/
def adapt (delta points : Nat) (first : Bool) : Nat :=
  let delta := if first then delta / 700 else delta / 2
  let delta := delta + delta / points
  shrink delta delta 0

/-- The digits of a number, from the `k`th one on. -/
def numberDigits (bias : Nat) : Nat → Nat → Nat → List Char
  | 0, _, q => [digit q]
  | fuel + 1, k, q =>
    let t := threshold k bias
    if q < t then [digit q]
    else digit (t + (q - t) % (36 - t)) :: numberDigits bias fuel (k + 1) ((q - t) / (36 - t))

/-! ### Writing -/

/-- Where the writer stands. -/
structure State where
  delta : Nat
  bias : Nat
  /-- The number of characters written. -/
  handled : Nat
  /-- The digits written, the last ones first. -/
  digits : List (List Char)
  deriving Repr

/-- Passes a character of the label on the way to those of one code point. -/
def pass (basic point : Nat) (s : State) (c : Char) : State :=
  if c.toNat < point then { s with delta := s.delta + 1 }
  else if c.toNat = point then
    { delta := 0
      bias := adapt s.delta (s.handled + 1) (s.handled == basic)
      handled := s.handled + 1
      digits := numberDigits s.bias (s.delta + 1) 1 s.delta :: s.digits }
  else s

/-- Writes the characters of increasing code points. `next` is the least one not passed yet. -/
def passAll (label : List Char) (basic : Nat) : List Nat → Nat → State → State
  | [], _, s => s
  | point :: rest, next, s =>
    let s := { s with delta := s.delta + (point - next) * (s.handled + 1) }
    let s := label.foldl (pass basic point) s
    passAll label basic rest (point + 1) { s with delta := s.delta + 1 }

/-- The code points beyond ASCII in increasing order, each once. -/
def pointsOf (label : List Char) : List Nat :=
  (((label.map Char.toNat).filter (128 ≤ ·)).eraseDups).mergeSort (· ≤ ·)

/-- A label in ASCII, without the mark that says so. -/
def written (label : List Char) : List Char :=
  let basic := label.filter fun c => c.toNat < 128
  let s := passAll label basic.length (pointsOf label) 128 ⟨0, 72, basic.length, []⟩
  basic ++ (if basic.isEmpty then [] else ['-']) ++ s.digits.reverse.flatten

/-! ### Reading -/

/-- The number fits 32 bits. -/
def small? (n : Nat) : Option Nat := if n < Nat.pow 2 32 then some n else none

/-- Adds the number that digits stand for, from the `k`th one on, to `sum`; `weight` is what the
`k`th digit counts. Gives what follows the number too. -/
def readNumber? (bias : Nat) : List Char → (k weight sum : Nat) → Option (Nat × List Char)
  | [], _, _, _ => none
  | c :: rest, k, weight, sum => do
    let d ← digitValue? c
    let sum ← small? (sum + d * weight)
    let t := threshold k bias
    if d < t then some (sum, rest)
    else
      let weight ← small? (weight * (36 - t))
      readNumber? bias rest (k + 1) weight sum

/-- Puts characters into a label, one for each number. `place` is where the one before went in,
plus one, and `point` its code point. Every number takes a digit at least, so the length of the text
is enough fuel. -/
def insertAll : (fuel : Nat) → (bias point place : Nat) → (label : List Char) →
    List Char → Option (List Char)
  | _, _, _, _, label, [] => some label
  | 0, _, _, _, _, _ => none
  | fuel + 1, bias, point, place, label, cs => do
    let (sum, rest) ← readNumber? bias cs 1 1 place
    let places := label.length + 1
    -- A round through all places goes on to the next code point.
    let point := point + sum / places
    if point.isValidChar then
      let label := label.insertIdx (sum % places) (Char.ofNat point)
      insertAll fuel (adapt (sum - place) places (place == 0)) point (sum % places + 1) label rest
    else none

/-- The label that a text in ASCII stands for, if it stands for one. -/
def read? (cs : List Char) : Option (List Char) :=
  let digits := (cs.reverse.takeWhile (· != '-')).reverse
  let basic := cs.take (cs.length - digits.length - 1)
  let digits := if basic.isEmpty then cs else digits
  insertAll (digits.length + 1) 72 128 0 basic digits

end CameraFeed.Url.Punycode
