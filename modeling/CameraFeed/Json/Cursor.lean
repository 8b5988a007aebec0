import CameraFeed.Json.Fault

/-! # Cursor — a text that is being read

  A cursor is the rest of a text with its place. Brackets are opened, crossed and closed here; what
  stands between them is left to the readers that are handed in.

  A mismatch of content has no place until the reader of the brackets around it has tried to close
  them, so a failure is either settled or still open. -/

namespace CameraFeed.Json

/-- The rest of a text and its place. -/
structure Cursor where
  rest : List Char
  place : Place
  deriving Repr

/-- A failure on the way. -/
inductive Failure where
  /-- A fault with its place. -/
  | settled (fault : Fault)
  /-- A mismatch, whose place depends on what follows the cursor. -/
  | unsettled (mismatch : Mismatch) (place : Cursor)

/-- A reader takes a value off the front of a text. -/
abbrev Reader (α : Type) := Cursor → Except Failure (α × Cursor)

namespace Cursor

/-- A text from its beginning. -/
def ofText (s : String) : Cursor := ⟨s.toList, .start⟩

/-- The next character. -/
def peek? (c : Cursor) : Option Char := c.rest.head?

/-- The cursor after the next character. -/
def eat (c : Cursor) : Cursor :=
  match c.rest with
  | [] => c
  | x :: rest => ⟨rest, c.place.after x⟩

/-- The cursor after `n` characters of one octet, none of them a line feed. -/
def advance (c : Cursor) (n : Nat) : Cursor :=
  ⟨c.rest.drop n, ⟨c.place.line, c.place.column + n⟩⟩

/-- White space of the format. -/
def isSpace (c : Char) : Bool := c == ' ' || c == '\n' || c == '\t' || c == '\r'

/-- The cursor at the next character that is no white space. -/
def skipSpaces (c : Cursor) : Cursor :=
  ⟨c.rest.dropWhile isSpace, c.place.afterAll (c.rest.takeWhile isSpace)⟩

/-- A fault at the cursor. -/
def here (c : Cursor) (cause : Cause) : Fault := ⟨cause, c.place⟩

/-- A fault in the next character, placed after its first octet. -/
def next (c : Cursor) (cause : Cause) : Fault :=
  match c.rest with
  | [] => ⟨cause, c.place⟩
  | x :: _ => ⟨cause, c.place.afterOctet x⟩

end Cursor

/-- Gives a failure its place, at the cursor it left. -/
def Failure.settle : Failure → Fault
  | settled f => f
  | unsettled m c => c.here (.content m)

/-- A failure with its fault given. -/
def fail {α : Type} (f : Fault) : Except Failure α := .error (.settled f)

/-! ### Closing brackets -/

/-- The cursor after the bracket that closes an array, or a fault and where the search for it
stopped. -/
def closeArray (c : Cursor) : Cursor × Option Fault :=
  let c := c.skipSpaces
  match c.peek? with
  | none => (c, some (c.next .eofList))
  | some x =>
    if x = ']' then (c.eat, none)
    else if x = ',' then
      let c := c.eat.skipSpaces
      if c.peek? = some ']' then (c, some (c.next .trailingComma))
      else (c, some (c.next .trailingCharacters))
    else (c, some (c.next .trailingCharacters))

/-- The cursor after the bracket that closes an object, or a fault and where the search for it
stopped. -/
def closeObject (c : Cursor) : Cursor × Option Fault :=
  let c := c.skipSpaces
  match c.peek? with
  | none => (c, some (c.next .eofObject))
  | some x =>
    if x = '\x7d' then (c.eat, none)
    else if x = ',' then (c, some (c.next .trailingComma))
    else (c, some (c.next .trailingCharacters))

/-- Closes the brackets around what was read. A mismatch inside them is placed where closing them
ends. -/
def enclosed {α : Type} (close : Cursor → Cursor × Option Fault)
    (r : Except Failure (α × Cursor)) : Except Failure (α × Cursor) :=
  match r with
  | .ok (a, c) =>
    match close c with
    | (c, none) => .ok (a, c)
    | (_, some f) => fail f
  | .error (.settled f) => fail f
  | .error (.unsettled m c) => fail ((close c).1.here (.content m))

/-! ### Crossing from item to item -/

/-- Moves to the next item of an array and says whether there is one. -/
def nextItem (first : Bool) (c : Cursor) : Except Failure (Bool × Cursor) :=
  let c := c.skipSpaces
  match c.peek? with
  | none => fail (c.next .eofList)
  | some x =>
    if x = ']' then .ok (false, c)
    else if first then .ok (true, c)
    else if x = ',' then
      let c := c.eat.skipSpaces
      match c.peek? with
      | none => fail (c.next .eofValue)
      | some y => if y = ']' then fail (c.next .trailingComma) else .ok (true, c)
    else fail (c.next .expectedListEnd)

/-- Moves to the name of the next member of an object and says whether there is one. -/
def nextMember (first : Bool) (c : Cursor) : Except Failure (Bool × Cursor) :=
  let c := c.skipSpaces
  match c.peek? with
  | none => fail (c.next .eofObject)
  | some x =>
    if x = '\x7d' then .ok (false, c)
    else if first then
      if x = '"' then .ok (true, c) else fail (c.next .keyNotString)
    else if x = ',' then
      let c := c.eat.skipSpaces
      match c.peek? with
      | none => fail (c.next .eofValue)
      | some y =>
        if y = '"' then .ok (true, c)
        else if y = '\x7d' then fail (c.next .trailingComma)
        else fail (c.next .keyNotString)
    else fail (c.next .expectedObjectEnd)

/-- Moves past the colon between a name and its value. -/
def pastColon (c : Cursor) : Except Failure Cursor :=
  let c := c.skipSpaces
  match c.peek? with
  | none => fail (c.next .eofObject)
  | some x => if x = ':' then .ok c.eat else fail (c.next .expectedColon)

/-- The items up to the end of an array. Every item takes at least one character, so the length of
the rest is enough fuel. -/
def items {α : Type} (item : Reader α) : Nat → Bool → Reader (List α)
  | 0, _, c => fail (c.here .eofList)
  | fuel + 1, first, c => do
    let (more, c) ← nextItem first c
    if more then
      let (a, c) ← item c
      let (rest, c) ← items item fuel false c
      .ok (a :: rest, c)
    else .ok ([], c)

/-- Folds the members up to the end of an object. The reader is called after each name and takes
the colon and the value. -/
def members {σ : Type} (name : Reader String) (member : String → σ → Reader σ) :
    Nat → Bool → σ → Reader σ
  | 0, _, _, c => fail (c.here .eofObject)
  | fuel + 1, first, s, c => do
    let (more, c) ← nextMember first c
    if more then
      let (n, c) ← name c.eat
      let (s, c) ← member n s c
      members name member fuel false s c
    else .ok (s, c)

/-- The items of an array whose bracket was opened. -/
def arrayOf {α : Type} (item : Reader α) : Reader (List α) := fun c =>
  enclosed closeArray (items item (c.rest.length + 1) true c)

/-- The members of an object whose bracket was opened. -/
def objectOf {σ : Type} (name : Reader String) (member : String → σ → Reader σ) (s : σ) :
    Reader σ := fun c =>
  enclosed closeObject (members name member (c.rest.length + 1) true s c)

end CameraFeed.Json
