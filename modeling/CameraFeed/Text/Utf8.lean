/-! # Utf8 — text as octets

  `encode` writes each character as its octets. `decode` reads any octets: a sequence that no
  character has, up to the octet that rules it out, stands for one replacement character, and so
  does a sequence cut short by the end. The reader is a machine that takes one octet at a time, so
  that reading in portions and reading at once come to the same. -/

namespace CameraFeed.Text.Utf8

/-- The character that stands for octets that are no text. -/
def replacement : Char := '\uFFFD'

/-- The octets of a text. -/
def encode (cs : List Char) : List UInt8 := cs.flatMap String.utf8EncodeChar

/-- The octets of a string. -/
def octets (s : String) : List UInt8 := encode s.toList

/-! ### State -/

/-- Where the reader stands between two octets. -/
inductive State where
  /-- Between characters. -/
  | start
  /-- Inside a character. -/
  | inside (owed : Nat) (low high : Nat) (value : Nat)
  deriving DecidableEq, Repr

/-- The reader after the first octet of a character, and the characters it gave. -/
def first (b : UInt8) : List Char × State :=
  let n := b.toNat
  if n ≤ 0x7F then ([Char.ofNat n], .start)
  else if n < 0xC2 then ([replacement], .start)
  else if n ≤ 0xDF then ([], .inside 1 0x80 0xBF (n - 0xC0))
  else if n = 0xE0 then ([], .inside 2 0xA0 0xBF 0)
  else if n = 0xED then ([], .inside 2 0x80 0x9F 0xD)
  else if n ≤ 0xEF then ([], .inside 2 0x80 0xBF (n - 0xE0))
  else if n = 0xF0 then ([], .inside 3 0x90 0xBF 0)
  else if n ≤ 0xF3 then ([], .inside 3 0x80 0xBF (n - 0xF0))
  else if n = 0xF4 then ([], .inside 3 0x80 0x8F 4)
  else ([replacement], .start)

/-- One octet. One that cannot go on the character it follows ends it there, and starts anew. -/
def step : State → UInt8 → List Char × State
  | .start, b => first b
  | .inside owed low high value, b =>
    let n := b.toNat
    if low ≤ n ∧ n ≤ high then
      let value := value * 64 + (n - 0x80)
      match owed with
      | 0 | 1 => ([Char.ofNat value], .start)
      | owed + 1 => ([], .inside owed 0x80 0xBF value)
    else
      let (cs, state) := first b
      (replacement :: cs, state)

/-- What the end of the octets gives in a state. -/
def finish : State → List Char
  | .start => []
  | .inside .. => [replacement]

/-- The text of octets that come after a state. -/
def decodeFrom : State → List UInt8 → List Char
  | state, [] => finish state
  | state, b :: bs =>
    let (cs, next) := step state b
    cs ++ decodeFrom next bs

/-- The text of octets. Those that are not valid become replacement characters. -/
def decode (bs : List UInt8) : List Char := decodeFrom .start bs

/-- The string of octets. Those that are not valid become replacement characters. -/
def text (bs : List UInt8) : String := String.ofList (decode bs)

/-- The string that has exactly these octets, if there is one. -/
def text? (bs : List UInt8) : Option String :=
  let s := text bs
  if octets s = bs then some s else none

end CameraFeed.Text.Utf8
