import CameraFeed.Json.Skip

/-! # Reader — values and typed content

  Values of any kind are read into `Json`. Where one kind is expected, a value of another kind is a
  mismatch, placed at the end of that value.

  Brackets may be nested 127 deep. The parameter `room` is the number of brackets that may still be
  opened. -/

namespace CameraFeed.Json

/-- The number of brackets that may be open at once. -/
def depthLimit : Nat := 127

/-- Takes an opening bracket and reads on with one fewer to open. -/
def opening {α : Type} (room : Nat) (inner : Nat → Reader α) : Reader α := fun c =>
  match room with
  | 0 => fail (c.next .recursionLimit)
  | room + 1 => inner room c.eat

/-! ### Scalars -/

/-- A value without brackets, if one starts at the cursor. -/
def scalar? (c : Cursor) : Option (Except Failure (Json × Cursor)) :=
  match c.peek? with
  | none => none
  | some x =>
    if x = 'n' then some do
      let c ← expectWord ['u', 'l', 'l'] c.eat
      .ok (.null, c)
    else if x = 't' then some do
      let c ← expectWord ['r', 'u', 'e'] c.eat
      .ok (.boolean true, c)
    else if x = 'f' then some do
      let c ← expectWord ['a', 'l', 's', 'e'] c.eat
      .ok (.boolean false, c)
    else if x = '"' then some do
      let (s, c) ← readString c.eat
      .ok (.text s, c)
    else if x = '-' ∨ Decimal.isDigit x then some do
      let (n, c) ← readNumber c
      .ok (.number n, c)
    else none

/-! ### Values -/

/-- Reads a value of any kind. -/
def readValue : Nat → Reader Json
  | 0, c =>
    let c := c.skipSpaces
    match scalar? c with
    | some r => r
    | none =>
      match c.peek? with
      | none => fail (c.next .eofValue)
      | some x => fail (c.next (if x = '[' ∨ x = '\x7b' then .recursionLimit else .expectedValue))
  | room + 1, c =>
    let c := c.skipSpaces
    match scalar? c with
    | some r => r
    | none =>
      match c.peek? with
      | none => fail (c.next .eofValue)
      | some x =>
        if x = '[' then do
          let (items, c) ← arrayOf (readValue room) c.eat
          .ok (.array items, c)
        else if x = '\x7b' then do
          let member (name : String) (pairs : List (String × Json)) : Reader _ := fun c => do
            let c ← pastColon c
            let (v, c) ← readValue room c
            .ok (insertMember name v pairs, c)
          let (members, c) ← objectOf readString member [] c.eat
          .ok (.object members, c)
        else fail (c.next .expectedValue)

/-! ### Content of one kind -/

/-- What a value is in messages. -/
def found : Json → Found
  | .null => .null
  | .boolean b => .boolean b
  | .number (.integer n) => .integer n
  | .number (.float x) => .float x
  | .text s => .text s
  | .array _ => .sequence
  | .object _ => .map

/-- The mismatch of the value at the cursor with what was asked for. -/
def mismatch {α : Type} (expected : String) (c : Cursor) : Except Failure α :=
  match scalar? c with
  | some (.ok (v, c)) => fail (c.here (.content (.wrongType (found v) expected)))
  | some (.error e) => .error e
  | none =>
    match c.peek? with
    | none => fail (c.next .eofValue)
    | some x =>
      if x = '[' then fail (c.here (.content (.wrongType .sequence expected)))
      else if x = '\x7b' then fail (c.here (.content (.wrongType .map expected)))
      else fail (c.next .expectedValue)

/-- Reads a string and applies `meaning` to it. -/
def readMeaning {α : Type} (expected : String) (meaning : String → Except String α) : Reader α :=
  fun c =>
    let c := c.skipSpaces
    if c.peek? = some '"' then do
      let (s, c) ← readString c.eat
      match meaning s with
      | .ok a => .ok (a, c)
      | .error reason => fail (c.here (.content (.refused reason)))
    else mismatch expected c

/-- Reads a string. -/
def readText : Reader String := readMeaning "a string" .ok

/-- Reads a whole number of a signed word. -/
def readSigned : Reader Int := fun c =>
  let c := c.skipSpaces
  if c.peek?.any fun x => x == '-' || Decimal.isDigit x then do
    let (n, c) ← readNumber c
    match n with
    | .integer n =>
      if fitsSigned n then .ok (n, c)
      else fail (c.here (.content (.wrongValue (.integer n) "i64")))
    | .float x => fail (c.here (.content (.wrongType (.float x) "i64")))
  else mismatch "i64" c

/-- Reads an array of items of one kind. -/
def readArray {α : Type} (item : Nat → Reader α) (room : Nat) : Reader (List α) := fun c =>
  let c := c.skipSpaces
  if c.peek? = some '[' then opening room (fun room => arrayOf (item room)) c
  else mismatch "a sequence" c

/-! ### Whole texts -/

/-- The value of a whole text: nothing but white space may follow it. -/
def readWhole {α : Type} (reader : Nat → Reader α) (s : String) : Except Fault α :=
  match reader depthLimit (.ofText s) with
  | .error e => .error e.settle
  | .ok (a, c) =>
    let c := c.skipSpaces
    match c.peek? with
    | none => .ok a
    | some _ => .error (c.next .trailingCharacters)

/-- The value of a text. -/
def read (s : String) : Except Fault Json := readWhole readValue s

end CameraFeed.Json
