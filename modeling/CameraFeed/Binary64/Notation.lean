import CameraFeed.Binary64.Shortest

/-! # Notation — floating-point numbers as text

  The digits are the shortest ones that read back. A `Style` says which numbers are written out
  with all their zeros and which with a power of ten, whether a whole number ends in `.0`, and which
  way ties go. -/

namespace CameraFeed.Binary64

/-- The choices of a way to write numbers. -/
structure Style where
  /-- The least exponent of the first digit that is written out, if there is one. -/
  least : Option Int
  /-- The greatest exponent of the first digit that is written out, if there is one. -/
  most : Option Int
  /-- A whole number that is written out ends in `.0`. -/
  pointZero : Bool
  /-- The choice between digits that are equally near. -/
  tie : Tie
  deriving Repr

/-- Every number written out, whole numbers without a point. Ties go up. -/
def Style.plain : Style := ⟨none, none, false, .up⟩

/-- Every number written out, whole numbers with `.0`. Ties go up. -/
def Style.pointed : Style := ⟨none, none, true, .up⟩

/-- Numbers from `0.00001` to below `10 ^ 16` written out, others as `1.5e+300` or `1e-6`. Ties go
to the even digit. -/
def Style.json : Style := ⟨some (-5), some 15, true, .toEven⟩

/-- The exponent is written out. -/
def Style.writesOut (s : Style) (exponent : Int) : Bool :=
  s.least.all (fun l => l ≤ exponent) && s.most.all (fun m => exponent ≤ m)

/-- Digits with all the zeros between them and the point. -/
def writtenOut (pointZero : Bool) (ds : List Char) : Int → List Char
  | .ofNat e =>
    let places := e + 1
    if ds.length ≤ places then
      ds ++ List.replicate (places - ds.length) '0' ++ (if pointZero then ['.', '0'] else [])
    else ds.take places ++ '.' :: ds.drop places
  | .negSucc e => '0' :: '.' :: (List.replicate e '0' ++ ds)

/-- Digits with the point after the first one, and a power of ten. -/
def scientific (ds : List Char) (exponent : Int) : List Char :=
  let lead := match ds with
    | d :: e :: rest => d :: '.' :: e :: rest
    | _ => ds
  lead ++ 'e' :: (if exponent < 0 then '-' else '+') :: Nat.toDigits 10 exponent.natAbs

/-- The magnitude of a number as text. -/
def magnitude (s : Style) (x : Binary64) : List Char :=
  if x.isZero then '0' :: (if s.pointZero then ['.', '0'] else [])
  else
    let d := x.shortest s.tie
    if s.writesOut d.exponent then writtenOut s.pointZero d.digits d.exponent
    else scientific d.digits d.exponent

/-- A number as text. -/
def write (s : Style) (x : Binary64) : List Char :=
  if x.negative then '-' :: magnitude s x else magnitude s x

end CameraFeed.Binary64
