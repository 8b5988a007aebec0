import CameraFeed.Json.Numbers
import CameraFeed.Json.Strings

/-! # Skip — values of unknown members

  A member without a meaning is passed over. Its text has to be in the format, but there is no limit
  to its depth: the open brackets are kept on a stack. -/

namespace CameraFeed.Json

/-- Reads the rest of a word whose first letter was taken. -/
def expectWord (letters : List Char) (c : Cursor) : Except Failure Cursor :=
  match letters with
  | [] => .ok c
  | l :: rest =>
    match c.peek? with
    | none => fail (c.here .eofValue)
    | some x => if x = l then expectWord rest c.eat else fail (c.next .expectedIdent)

namespace Skip

/-! ### State -/

/-- A kind of brackets. -/
inductive Bracket where
  | array
  | object
  deriving DecidableEq, Repr

/-- The character that closes a bracket. -/
def Bracket.closing : Bracket → Char
  | array => ']'
  | object => '\x7d'

/-- What may come next. -/
inductive Phase where
  /-- A value. -/
  | value
  /-- An item or the end, of a bracket that was just opened. -/
  | opened
  /-- A comma or the end, after an item. -/
  | after
  deriving DecidableEq, Repr

/-- The open brackets, the innermost one first, and what may come next. Nothing may come when the
value is complete. -/
structure State where
  brackets : List Bracket
  phase : Phase
  deriving Repr

/-- The state after a value: it was the value asked for if no bracket is open. -/
def afterValue (brackets : List Bracket) : Option State :=
  if brackets.isEmpty then none else some ⟨brackets, .after⟩

/-! ### Steps -/

/-- A value without brackets, or an opening bracket. -/
def value (brackets : List Bracket) (c : Cursor) : Except Failure (Option State × Cursor) := do
  let done (c : Cursor) := (afterValue brackets, c)
  match c.peek? with
  | none => fail (c.next .eofValue)
  | some x =>
    if x = 'n' then done <$> expectWord ['u', 'l', 'l'] c.eat
    else if x = 't' then done <$> expectWord ['r', 'u', 'e'] c.eat
    else if x = 'f' then done <$> expectWord ['a', 'l', 's', 'e'] c.eat
    else if x = '-' ∨ Decimal.isDigit x then done <$> skipNumber c
    else if x = '"' then done <$> skipString c.eat
    else if x = '[' then .ok (some ⟨.array :: brackets, .opened⟩, c.eat)
    else if x = '\x7b' then .ok (some ⟨.object :: brackets, .opened⟩, c.eat)
    else fail (c.next .expectedValue)

/-- The start of an item: in an object, its name and colon. -/
def item (b : Bracket) (c : Cursor) : Except Failure Cursor :=
  match b with
  | .array => .ok c
  | .object =>
    let c := c.skipSpaces
    match c.peek? with
    | none => fail (c.next .eofObject)
    | some x =>
      if x = '"' then do
        let c ← skipString c.eat
        pastColon c
      else fail (c.next .keyNotString)

/-- Inside a bracket: its end, or the start of an item. -/
def inside (b : Bracket) (outer : List Bracket) (needsComma : Bool) (c : Cursor) :
    Except Failure (Option State × Cursor) :=
  match c.peek? with
  | none => fail (c.next (match b with | .array => .eofList | .object => .eofObject))
  | some x =>
    if x = b.closing then .ok (afterValue outer, c.eat)
    else if needsComma ∧ x ≠ ',' then
      fail (c.next (match b with | .array => .expectedListEnd | .object => .expectedObjectEnd))
    else do
      let c ← item b (if needsComma then c.eat else c)
      .ok (some ⟨b :: outer, .value⟩, c)

/-- One step. -/
def step (s : State) (c : Cursor) : Except Failure (Option State × Cursor) :=
  let c := c.skipSpaces
  match s.phase, s.brackets with
  | .opened, b :: outer => inside b outer false c
  | .after, b :: outer => inside b outer true c
  | _, brackets => value brackets c

/-- Steps until the value is complete. -/
def run : Nat → State → Cursor → Except Failure Cursor
  | 0, _, c => fail (c.here .eofValue)
  | fuel + 1, s, c => do
    match ← step s c with
    | (none, c) => .ok c
    | (some s, c) => run fuel s c

end Skip

/-- The cursor after a value. Of two steps at least one takes a character, so twice the length of
the rest is enough fuel. -/
def skipValue (c : Cursor) : Except Failure Cursor :=
  Skip.run (2 * c.rest.length + 2) ⟨[], .value⟩ c

end CameraFeed.Json
