import CameraFeed.Decimal.Numeral
import CameraFeed.Text.Pieces

/-! # Address — hosts that are numbers

  A host whose last part is a number is an address of 32 bits, in one to four parts, each of which
  may be written in base 8, 10 or 16; the last part fills the octets that the others leave. A host
  between square brackets is an address of 128 bits in groups of 16, of which one run of zeros may
  be left out. -/

namespace CameraFeed.Url

/-! ### 32 bits -/

namespace Ipv4

/-- What a part may stand for. -/
inductive Part where
  /-- A number of 32 bits. -/
  | number (n : Nat)
  /-- A number beyond 32 bits. -/
  | tooLarge
  /-- No number. -/
  | none
  deriving DecidableEq, Repr

/-- The digit of a base. -/
def digit? (base : Nat) (c : Char) : Option Nat :=
  let n := c.toNat
  let d? := if 48 ≤ n ∧ n ≤ 57 then some (n - 48)
    else if 65 ≤ n ∧ n ≤ 70 then some (n - 55)
    else if 97 ≤ n ∧ n ≤ 102 then some (n - 87)
    else Option.none
  d?.filter (· < base)

/-- The number that digits of a base stand for. Without digits it is zero. -/
def numberOf (base : Nat) (cs : List Char) : Part :=
  match cs.mapM (digit? base) with
  | Option.none => .none
  | some ds =>
    let n := ds.foldl (fun n d => base * n + d) 0
    if n < Nat.pow 2 32 then .number n else .tooLarge

/-- What a part stands for. The base shows at its beginning. -/
def part : List Char → Part
  | [] => .none
  | '0' :: 'x' :: cs => numberOf 16 cs
  | '0' :: 'X' :: cs => numberOf 16 cs
  | '0' :: c :: cs => numberOf 8 (c :: cs)
  | cs => numberOf 10 cs

/-- The parts of a host. A final dot ends the last one. -/
def parts (host : List Char) : List (List Char) :=
  let ps := Text.pieces (· == '.') host
  if ps.getLast? = some [] then ps.dropLast else ps

/-- The host is meant as a number. -/
def isMeant (host : List Char) : Bool :=
  match (parts host).getLast? with
  | none => false
  | some last => (!last.isEmpty && last.all Decimal.isDigit) || part last != .none

/-- The numbers of parts that are all numbers. -/
def numbers (ps : List (List Char)) : Option (List Nat) :=
  ps.mapM fun p =>
    match part p with
    | .number n => some n
    | _ => none

/-- The address of a host that is meant as a number. -/
def read? (host : List Char) : Option Nat := do
  let ns ← numbers (parts host)
  let last ← ns.getLast?
  let before := ns.dropLast
  if before.length < 4 ∧ last < Nat.pow 2 (32 - 8 * before.length) ∧ before.all (· < 256) then
    some ((before.zipIdx.map fun (n, i) => n * Nat.pow 2 (8 * (3 - i))).foldr (· + ·) last)
  else none

/-- The address in four parts. -/
def written (n : Nat) : List Char :=
  Decimal.digits (n / Nat.pow 2 24) ++ '.' :: (Decimal.digits (n / Nat.pow 2 16 % 256)
    ++ '.' :: (Decimal.digits (n / Nat.pow 2 8 % 256) ++ '.' :: Decimal.digits (n % 256)))

end Ipv4

/-! ### 128 bits -/

namespace Ipv6

/-- The number of a group: one to four digits of base 16. -/
def group? (cs : List Char) : Option Nat :=
  if cs.isEmpty ∨ 4 < cs.length then none
  else do
    let ds ← cs.mapM (Ipv4.digit? 16)
    some (ds.foldl (fun n d => 16 * n + d) 0)

/-- An octet in decimal, without a zero in front. -/
def octet? (cs : List Char) : Option Nat :=
  if 1 < cs.length ∧ cs.head? = some '0' then none else Decimal.read? 256 cs

/-- The two groups that an address of 32 bits at the end stands for. -/
def lastGroups? (cs : List Char) : Option (List Nat) :=
  match (Text.pieces (· == '.') cs).mapM octet? with
  | some [a, b, c, d] => some [256 * a + b, 256 * c + d]
  | _ => none

/-- The groups between colons. -/
def groups? : List (List Char) → Option (List Nat)
  | [] => some []
  | [last] => if last.contains '.' then lastGroups? last else (group? last).map ([·])
  | g :: rest => do
    let n ← group? g
    let ns ← groups? rest
    some (n :: ns)

/-- The groups of a text, none of an empty one. -/
def groupsOf? (cs : List Char) : Option (List Nat) :=
  if cs.isEmpty then some [] else groups? (Text.pieces (· == ':') cs)

/-- The text before the first two colons in a row and the text after them. -/
def cut? : List Char → Option (List Char × List Char)
  | [] => none
  | [_] => none
  | a :: b :: rest =>
    if a = ':' ∧ b = ':' then some ([], rest)
    else (cut? (b :: rest)).map fun (before, after) => (a :: before, after)

/-- The eight groups of an address. -/
def read? (cs : List Char) : Option (List Nat) :=
  match cut? cs with
  | none => do
    let ns ← groupsOf? cs
    if ns.length = 8 then some ns else none
  | some (before, after) => do
    if before.contains '.' then none
    else
      let xs ← groupsOf? before
      let ys ← groupsOf? after
      if xs.length + ys.length < 8 then
        some (xs ++ List.replicate (8 - xs.length - ys.length) 0 ++ ys)
      else none

/-- The number of zeros that groups start with. -/
def leadingZeros (ns : List Nat) : Nat := (ns.takeWhile (· == 0)).length

/-- The place and the length of the first longest run of zeros. -/
def longestZeros (ns : List Nat) : Nat × Nat :=
  (List.range 8).foldl (fun best i =>
    let n := leadingZeros (ns.drop i)
    if best.2 < n then (i, n) else best) (0, 0)

/-- Groups with colons between them. -/
def joined (ns : List Nat) : List Char :=
  List.intercalate [':'] (ns.map (Nat.toDigits 16))

/-- The address between brackets. The first longest run of two or more zeros is left out. -/
def written (ns : List Nat) : List Char :=
  let (i, n) := longestZeros ns
  let inner :=
    if 1 < n then joined (ns.take i) ++ ':' :: ':' :: joined (ns.drop (i + n)) else joined ns
  '[' :: (inner ++ [']'])

end Ipv6

end CameraFeed.Url
