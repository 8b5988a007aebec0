import CameraFeed.Json.Basic
import CameraFeed.Json.Cursor

/-! # Numbers — signs, digits, points and exponents

  The digits of a number are gathered in one significand as long as it fits 64 bits. Those before
  the point that no longer fit raise the exponent instead, those behind it are dropped. A number
  that is whole, has no exponent and lost no digit is an integer. Any other is the significand,
  rounded, multiplied by or divided by a power of ten, and rounded again: the value follows from
  this order of steps, not from the digits alone. -/

namespace CameraFeed.Json

/-! ### Digits -/

/-- The digits at the cursor. -/
def digitsAt (c : Cursor) : List Char := c.rest.takeWhile Decimal.isDigit

/-- Adds digits to a significand while it fits 64 bits, and says how many did not fit. Once one
does not fit, no later one is added. -/
def gather (significand : Nat) : List Char → Nat × Nat
  | [] => (significand, 0)
  | d :: ds =>
    let n := 10 * significand + Decimal.digitValue d
    if n < Decimal.wordLimit then gather n ds else (significand, ds.length + 1)

/-- What the digits of a number come to. -/
structure Digits where
  significand : Nat
  /-- The power of ten that the significand is to be multiplied by. -/
  exponent : Int
  /-- No digit before the point was left out, and there is neither point nor exponent. -/
  whole : Bool
  deriving Repr

/-- The digits before the point. A zero is not followed by another digit. -/
def wholeDigits : Reader Digits := fun c =>
  match c.peek? with
  | none => fail (c.here .eofValue)
  | some x =>
    if x = '0' then
      let c := c.eat
      if (digitsAt c).isEmpty then .ok (⟨0, 0, true⟩, c) else fail (c.next .invalidNumber)
    else if Decimal.isDigit x then
      let ds := digitsAt c
      let (n, lost) := gather 0 ds
      .ok (⟨n, lost, lost == 0⟩, c.advance ds.length)
    else fail (c.next .invalidNumber)

/-- The digits behind the point, if there is one. -/
def pointDigits (d : Digits) : Reader Digits := fun c =>
  if c.peek? = some '.' then
    let c := c.eat
    let ds := digitsAt c
    if ds.isEmpty then
      match c.peek? with
      | none => fail (c.next .eofValue)
      | some _ => fail (c.next .invalidNumber)
    else
      let (n, lost) := gather d.significand ds
      let used := ds.length - lost
      .ok (⟨n, d.exponent - used, false⟩, c.advance ds.length)
  else .ok (d, c)

/-- One more than the largest exponent that makes a difference. -/
def exponentLimit : Nat := Nat.pow 2 31

/-- The first digits of an exponent that take it to its limit, if they do. -/
def overflowAt (exponent : Nat) : List Char → Option Nat
  | [] => none
  | d :: ds =>
    let n := 10 * exponent + Decimal.digitValue d
    if n < exponentLimit then (overflowAt n ds).map (· + 1) else some 1

/-- An exponent kept within the numbers of 32 bits. -/
def clampExponent (e : Int) : Int := max (-(exponentLimit : Int)) (min e (exponentLimit - 1))

/-- The exponent behind the digits, if there is one. One beyond all bounds makes a number too
large, unless it is zero, or vanishingly small. -/
def exponentDigits (d : Digits) : Reader Digits := fun c =>
  if c.peek? = some 'e' ∨ c.peek? = some 'E' then do
    let c := c.eat
    let negative := decide (c.peek? = some '-')
    let c := if c.peek? = some '+' ∨ c.peek? = some '-' then c.eat else c
    let ds := digitsAt c
    if ds.isEmpty then
      match c.peek? with
      | none => fail (c.next .eofValue)
      | some _ => fail (c.next .invalidNumber)
    else
      let past := c.advance ds.length
      match overflowAt 0 ds with
      | none =>
        let e : Int := Decimal.value ds
        let exponent := if negative then d.exponent - e else d.exponent + e
        .ok (⟨d.significand, clampExponent exponent, false⟩,
          past)
      | some n =>
        -- The digits after those that decide are passed only if the number is zero.
        if d.significand ≠ 0 ∧ ¬ negative then fail ((c.advance n).here .numberOutOfRange)
        else .ok (⟨0, 0, false⟩, past)
  else .ok (d, c)

/-! ### Values -/

/-- The number nearest to a power of ten with an exponent up to 308. -/
def powerOfTen (e : Nat) : Option Binary64 := Binary64.ofNat? (Nat.pow 10 e)

/-- Divides by `10 ^ 308` the given number of times and then by `10 ^ last`. What became zero stays
zero. -/
def scaleDown (last : Nat) : Nat → Binary64 → Option Binary64
  | 0, x => do x.div? (← powerOfTen last)
  | steps + 1, x =>
    if x.isZero then some x
    else do scaleDown last steps (← x.div? (← powerOfTen 308))

/-- The value of a significand times a power of ten, if it is not too large. -/
def scaled? (significand : Nat) (exponent : Int) : Option Binary64 := do
  let x ← Binary64.ofNat? significand
  match exponent with
  | .ofNat e =>
    if x.isZero then some x
    -- The power itself is too large, even if the product was not.
    else if 308 < e then none
    else x.mul? (← powerOfTen e)
  | .negSucc e => scaleDown (e % 308 + 1) (e / 308) x

/-- The number that digits stand for after a sign. -/
def Digits.number? (negative : Bool) (d : Digits) : Option Number :=
  let signed (x : Binary64) : Number := .float (if negative then x.neg else x)
  if d.whole then
    -- A negative zero and what is below the words of 64 bits have a value only as binary numbers.
    if ¬ negative then some (.integer d.significand)
    else if d.significand ≠ 0 ∧ d.significand ≤ Nat.pow 2 63 then
      some (.integer (-(d.significand : Int)))
    else (Binary64.ofNat? d.significand).map signed
  else (scaled? d.significand d.exponent).map signed

/-- Reads a number whose minus sign, if it has one, was taken. -/
def readUnsigned (negative : Bool) : Reader Number := fun c => do
  let (d, c) ← wholeDigits c
  let (d, c) ← pointDigits d c
  let (d, c) ← exponentDigits d c
  match d.number? negative with
  | some n => .ok (n, c)
  | none => fail (c.here .numberOutOfRange)

/-- Reads a number. -/
def readNumber : Reader Number := fun c =>
  if c.peek? = some '-' then readUnsigned true c.eat else readUnsigned false c

/-! ### Skipping -/

/-- The cursor after the digits before the point of a skipped number. -/
def skipWholeDigits (c : Cursor) : Except Failure Cursor :=
  match c.peek? with
  | none => fail (c.here .invalidNumber)
  | some x =>
    if x = '0' then
      let c := c.eat
      if (digitsAt c).isEmpty then .ok c else fail (c.next .invalidNumber)
    else if Decimal.isDigit x then .ok (c.advance (digitsAt c).length)
    else fail (c.next .invalidNumber)

/-- The cursor after the digits behind the point of a skipped number. -/
def skipPointDigits (c : Cursor) : Except Failure Cursor :=
  if c.peek? = some '.' then
    let c := c.eat
    let ds := digitsAt c
    if ds.isEmpty then fail (c.next .invalidNumber) else .ok (c.advance ds.length)
  else .ok c

/-- The cursor after the exponent of a skipped number. -/
def skipExponent (c : Cursor) : Except Failure Cursor :=
  if c.peek? = some 'e' ∨ c.peek? = some 'E' then
    let c := c.eat
    let c := if c.peek? = some '+' ∨ c.peek? = some '-' then c.eat else c
    let ds := digitsAt c
    if ds.isEmpty then fail (c.next .invalidNumber) else .ok (c.advance ds.length)
  else .ok c

/-- The cursor after a number whose value is not asked for. -/
def skipNumber (c : Cursor) : Except Failure Cursor := do
  let c := if c.peek? = some '-' then c.eat else c
  let c ← skipWholeDigits c
  let c ← skipPointDigits c
  skipExponent c

end CameraFeed.Json
