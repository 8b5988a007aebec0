import CameraFeed.Binary64.Basic

/-! # Shortest — the fewest decimal digits that read back

  The reals that round to a number form an interval, which includes its ends if the significand is
  even. The fewest digits are found on the decimal grids around the number, the coarsest first: of
  its two neighbours on a grid the nearer one in the interval is taken. Where both are equally near,
  a `Tie` says which one it is. Seventeen digits always suffice. -/

namespace CameraFeed.Binary64

/-- Which of two equally near neighbours is taken. -/
inductive Tie where
  /-- The one whose last digit is even. -/
  | toEven
  /-- The larger one. -/
  | up
  deriving DecidableEq, Repr

/-- Of the neighbours `below` and `below + 1`, equally near, the lower one is taken. -/
def Tie.takesLower (tie : Tie) (below : Nat) : Bool :=
  match tie with
  | toEven => below % 2 == 0
  | up => false

/-- Decimal digits, and the power of ten that the first of them counts. -/
structure Digits where
  digits : List Char
  exponent : Int
  deriving DecidableEq, Repr

/-- The interval of a number and the number itself, in quarters of the unit of its significand. -/
structure Quarters where
  low : Nat
  middle : Nat
  high : Nat
  /-- The ends belong to the interval. -/
  closed : Bool
  deriving Repr

/-- The interval of the reals that round to a magnitude. -/
def quarters (x : Binary64) : Quarters where
  low := if x.significand = Nat.pow 2 52 ∧ leastExponent < x.exponent then 4 * x.significand - 1
    else 4 * x.significand - 2
  middle := 4 * x.significand
  high := 4 * x.significand + 2
  closed := x.significand % 2 = 0

/-- The largest power of ten that is not above `num / den`. -/
def leadingExponent (num den : Nat) : Int :=
  if den ≤ num then ((Nat.toDigits 10 (num / den)).length : Int) - 1
  else -((Nat.toDigits 10 ((den + num - 1) / num - 1)).length : Int)

/-- A quarter of the unit of the significand, as a ratio in units of `10 ^ grid`. -/
def quarterRatio (exponent grid : Int) : Nat × Nat :=
  let (a, b) := match exponent - 2 with
    | .ofNat e => (Nat.pow 2 e, 1)
    | .negSucc e => (1, Nat.pow 2 (e + 1))
  match grid with
  | .ofNat p => (a, b * Nat.pow 10 p)
  | .negSucc p => (a * Nat.pow 10 (p + 1), b)

/-- The neighbour on the grid of `10 ^ grid` that rounds to the number, if one does. -/
def onGrid (tie : Tie) (q : Quarters) (exponent grid : Int) : Option Nat :=
  let (a, b) := quarterRatio exponent grid
  let inside (n : Nat) : Bool :=
    if q.closed then q.low * a ≤ n * b && n * b ≤ q.high * a
    else q.low * a < n * b && n * b < q.high * a
  let below := q.middle * a / b
  let rest := q.middle * a % b
  let above := below + 1
  let nearerBelow := 2 * rest < b || (2 * rest == b && tie.takesLower below)
  match inside below, inside above with
  | true, true => some (if nearerBelow then below else above)
  | true, false => some below
  | false, true => some above
  | false, false => none

/-- A whole number of units of `10 ^ grid` as digits, without zeros at the end. -/
def Digits.ofUnits (n : Nat) (grid : Int) : Digits :=
  let ds := Nat.toDigits 10 n
  ⟨(ds.reverse.dropWhile (· == '0')).reverse, grid + (ds.length : Int) - 1⟩

/-- The first grid with a neighbour, among those with `digits`, `digits + 1`, … digits. -/
def search (tie : Tie) (q : Quarters) (exponent leading : Int) : (tries digits : Nat) → Digits
  | 0, digits => Digits.ofUnits q.middle (leading - digits)
  | tries + 1, digits =>
    let grid := leading - digits + 1
    match onGrid tie q exponent grid with
    | some n => Digits.ofUnits n grid
    | none => search tie q exponent leading tries (digits + 1)

/-- The fewest digits that read back as the magnitude of a number that is not zero. -/
def shortest (tie : Tie) (x : Binary64) : Digits :=
  let (num, den) := x.ratio
  search tie x.quarters x.exponent (leadingExponent num den) 17 1

end CameraFeed.Binary64
