import CameraFeed.Json.Cursor

/-! # Strings — the characters between two quotation marks

  A string is read one character at a time, an escape counting as one. Characters outside the basic
  plane are escaped as two surrogates, which have to be a pair. In a string that is skipped,
  surrogates need not be paired. -/

namespace CameraFeed.Json

/-! ### Escapes -/

/-- What an escape of one letter stands for. -/
def simpleEscape? (c : Char) : Option Char :=
  if c = '"' ∨ c = '\\' ∨ c = '/' then some c
  else if c = 'b' then some '\x08'
  else if c = 'f' then some '\x0c'
  else if c = 'n' then some '\n'
  else if c = 'r' then some '\r'
  else if c = 't' then some '\t'
  else none

/-- The number a digit of base 16 stands for. -/
def hexValue? (c : Char) : Option Nat :=
  let n := c.toNat
  if 48 ≤ n ∧ n ≤ 57 then some (n - 48)
  else if 65 ≤ n ∧ n ≤ 70 then some (n - 55)
  else if 97 ≤ n ∧ n ≤ 102 then some (n - 87)
  else none

/-- The number that four digits of base 16 stand for. -/
def fourDigits? (a b c d : Char) : Option Nat := do
  let a ← hexValue? a
  let b ← hexValue? b
  let c ← hexValue? c
  let d ← hexValue? d
  some (((a * 16 + b) * 16 + c) * 16 + d)

/-- A fault at the end of the text, which came too early for a string. -/
def endsInString {α : Type} (c : Cursor) : Except Failure α :=
  fail ⟨.eofString, c.place.afterAll c.rest⟩

/-- The four digits of an escape, as octets. -/
def unit : Reader Nat := fun c =>
  match c.rest with
  | x :: y :: z :: w :: _ =>
    match fourDigits? x y z w with
    | some n => .ok (n, c.advance 4)
    | none => fail ⟨.invalidEscape, (c.place.afterOctets 4 c.rest).getD c.place⟩
  | rest =>
    match c.place.afterOctets 4 rest with
    | some p => fail ⟨.invalidEscape, p⟩
    | none => endsInString c

/-- The number is the first half of a pair. -/
def isLeading (n : Nat) : Bool := 0xD800 ≤ n && n ≤ 0xDBFF

/-- The number is the second half of a pair. -/
def isTrailing (n : Nat) : Bool := 0xDC00 ≤ n && n ≤ 0xDFFF

/-- The character of a pair of surrogates. -/
def paired (leading trailing : Nat) : Char :=
  Char.ofNat (0x10000 + (leading - 0xD800) * 0x400 + (trailing - 0xDC00))

/-- The mark that has to come next for a pair to be complete. -/
def pairMark (mark : Char) (c : Cursor) : Except Failure Cursor :=
  match c.peek? with
  | none => endsInString c
  | some x => if x = mark then .ok c.eat else fail (c.next .endOfEscape)

/-- The character of a numeric escape, of which `\u` was taken. -/
def numericEscape : Reader Char := fun c => do
  let (n, c) ← unit c
  if isTrailing n then fail (c.here .loneSurrogate)
  else if isLeading n then
    let c ← pairMark '\\' c
    let c ← pairMark 'u' c
    let (m, c) ← unit c
    if isTrailing m then .ok (paired n m, c) else fail (c.here .loneSurrogate)
  else .ok (Char.ofNat n, c)

/-- The character of an escape, of which the backslash was taken. -/
def escape : Reader Char := fun c =>
  match c.peek? with
  | none => endsInString c
  | some x =>
    match simpleEscape? x with
    | some y => .ok (y, c.eat)
    | none => if x = 'u' then numericEscape c.eat else fail (c.next .invalidEscape)

/-! ### Reading -/

/-- The next character of a string, none after the closing quotation mark. -/
def stringPart : Reader (Option Char) := fun c =>
  match c.peek? with
  | none => endsInString c
  | some x =>
    if x = '"' then .ok (none, c.eat)
    else if x = '\\' then do
      let (y, c) ← escape c.eat
      .ok (some y, c)
    else if x.toNat < 0x20 then fail (c.next .controlCharacter)
    else .ok (some x, c.eat)

/-- The characters of a string. Each takes at least one character of the text, so the length of
the rest is enough fuel. -/
def stringParts : Nat → Reader (List Char)
  | 0, c => endsInString c
  | fuel + 1, c => do
    match ← stringPart c with
    | (none, c) => .ok ([], c)
    | (some x, c) =>
      let (rest, c) ← stringParts fuel c
      .ok (x :: rest, c)

/-- Reads a string whose opening quotation mark was taken. -/
def readString : Reader String := fun c => do
  let (cs, c) ← stringParts (c.rest.length + 1) c
  .ok (String.ofList cs, c)

/-! ### Skipping -/

/-- The cursor after an escape of a skipped string, of which the backslash was taken. -/
def skipEscape (c : Cursor) : Except Failure Cursor :=
  match c.peek? with
  | none => endsInString c
  | some x =>
    if (simpleEscape? x).isSome then .ok c.eat
    else if x = 'u' then do
      let (_, c) ← unit c.eat
      .ok c
    else fail (c.next .invalidEscape)

/-- The cursor after a skipped string whose opening quotation mark was taken. -/
def skipStringParts : Nat → Cursor → Except Failure Cursor
  | 0, c => endsInString c
  | fuel + 1, c =>
    match c.peek? with
    | none => endsInString c
    | some x =>
      if x = '"' then .ok c.eat
      else if x = '\\' then do
        let c ← skipEscape c.eat
        skipStringParts fuel c
      else if x.toNat < 0x20 then fail (c.here .controlCharacter)
      else skipStringParts fuel c.eat

/-- The cursor after a skipped string whose opening quotation mark was taken. -/
def skipString (c : Cursor) : Except Failure Cursor := skipStringParts (c.rest.length + 1) c

end CameraFeed.Json
