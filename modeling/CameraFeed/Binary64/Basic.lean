/-! # Binary64 — floating-point numbers, exactly

  A finite number of the 64-bit binary format is a sign and `significand · 2 ^ exponent`, kept in
  one normal form: the significand fills its 53 bits, or the exponent is the least one. Every
  operation computes its exact result as a ratio of natural numbers and rounds it once, to the
  nearest number and to the even one of two that are equally near. A result beyond the largest
  number is none. -/

namespace CameraFeed

/-- A finite floating-point number of 64 bits. -/
structure Binary64 where
  negative : Bool
  significand : Nat
  exponent : Int
  deriving DecidableEq, Repr

namespace Binary64

/-- One more than the largest significand. -/
def significandLimit : Nat := Nat.pow 2 53

/-- The exponent of the smallest numbers. -/
def leastExponent : Int := -1074

/-- The exponent of the largest numbers. -/
def mostExponent : Int := 971

/-- Zero with a plus sign. -/
def zero : Binary64 := ⟨false, 0, leastExponent⟩

/-- The number is zero, of either sign. -/
def isZero (x : Binary64) : Bool := x.significand == 0

/-- The number with the other sign. -/
def neg (x : Binary64) : Binary64 := { x with negative := !x.negative }

/-! ### Rounding -/

/-- `num / den` in units of `2 ^ exponent`, as a ratio again. -/
def scale (num den : Nat) (exponent : Int) : Nat × Nat :=
  match exponent with
  | .ofNat e => (num, den * Nat.pow 2 e)
  | .negSucc e => (num * Nat.pow 2 (e + 1), den)

/-- The exponent at which `num / den` has a significand of 53 bits, or the least one. -/
def exponentOf (num den : Nat) : Int :=
  let low := max ((Nat.log2 num : Int) - (Nat.log2 den : Int) - 53) leastExponent
  let (n, d) := scale num den low
  if n / d < significandLimit then low else low + 1

/-- A quotient rounded to the nearest whole number, a half to the even neighbour. -/
def roundHalfEven (num den : Nat) : Nat :=
  let q := num / den
  let r := num % den
  if 2 * r < den then q
  else if den < 2 * r then q + 1
  else if q % 2 = 0 then q else q + 1

/-- The number nearest to `num / den`, unless that is beyond the largest one. -/
def ofRatio (negative : Bool) (num den : Nat) : Option Binary64 :=
  if num = 0 then some ⟨negative, 0, leastExponent⟩
  else
    let e := exponentOf num den
    let (n, d) := scale num den e
    let q := roundHalfEven n d
    let (q, e) := if q = significandLimit then (q / 2, e + 1) else (q, e)
    if e ≤ mostExponent then some ⟨negative, q, e⟩ else none

/-- The magnitude as a ratio. -/
def ratio (x : Binary64) : Nat × Nat :=
  match x.exponent with
  | .ofNat e => (x.significand * Nat.pow 2 e, 1)
  | .negSucc e => (x.significand, Nat.pow 2 (e + 1))

/-! ### Operations -/

/-- The number nearest to a natural number. -/
def ofNat? (n : Nat) : Option Binary64 := ofRatio false n 1

/-- The product, rounded. -/
def mul? (x y : Binary64) : Option Binary64 :=
  let (a, b) := x.ratio
  let (c, d) := y.ratio
  ofRatio (x.negative != y.negative) (a * c) (b * d)

/-- The quotient, rounded. Nothing is divided by zero. -/
def div? (x y : Binary64) : Option Binary64 :=
  let (a, b) := x.ratio
  let (c, d) := y.ratio
  if c = 0 then none else ofRatio (x.negative != y.negative) (a * d) (b * c)

/-- The number nearest to `digits · 10 ^ exponent`. An exponent far outside the range of the format
is answered without computing the power. -/
def ofDecimal (negative : Bool) (digits : Nat) (exponent : Int) : Option Binary64 :=
  let size : Int := (Nat.toDigits 10 digits).length
  if digits = 0 ∨ exponent + size < -400 then some ⟨negative, 0, leastExponent⟩
  else if 400 < exponent + size then none
  else match exponent with
    | .ofNat e => ofRatio negative (digits * Nat.pow 10 e) 1
    | .negSucc e => ofRatio negative digits (Nat.pow 10 (e + 1))

end Binary64

end CameraFeed
