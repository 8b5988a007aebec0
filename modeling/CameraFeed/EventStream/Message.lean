import CameraFeed.Decimal.Numeral
import CameraFeed.Json.Reader
import CameraFeed.Text.Blank

/-! # Message — the fields of a frame

  Every line of a frame is a field by the name it starts with; lines that start otherwise have no
  meaning. Of a field that is there more than once the last line counts. The lines of the data
  belong together: joined by line feeds they are a text of the data format. -/

namespace CameraFeed.EventStream

/-- The fields of a frame. -/
structure Message (α : Type) where
  id : Option String
  event : Option String
  /-- The time to wait before the next connection, in milliseconds. -/
  retry : Option Nat
  comment : Option String
  data : Option α
  deriving Repr

/-- The fields read so far, the lines of the data last to first. -/
structure Fields where
  id : Option String
  event : Option String
  retry : Option Nat
  comment : Option String
  data : List (List Char)
  deriving DecidableEq, Repr

namespace Fields

/-- No field. -/
def empty : Fields := ⟨none, none, none, none, []⟩

/-- What follows a name at the start of a line. -/
def after? (name line : List Char) : Option (List Char) :=
  if name.isPrefixOf line then some (line.drop name.length) else none

/-- The value of a field without the white space around it. -/
def valueOf (cs : List Char) : String := String.ofList (Text.trim cs)

/-- A line of the data, without the one space that may follow the name. -/
def dataLine : List Char → List Char
  | ' ' :: rest => rest
  | cs => cs

/-- Takes a line. -/
def addLine (f : Fields) (line : List Char) : Fields :=
  match after? "id:".toList line with
  | some v => { f with id := some (valueOf v) }
  | none =>
    match after? "event:".toList line with
    | some v => { f with event := some (valueOf v) }
    | none =>
      match after? "retry:".toList line with
      | some v => { f with retry := Decimal.readPlus? Decimal.wordLimit (Text.trim v) }
      | none =>
        match after? ":".toList line with
        | some v => { f with comment := some (valueOf v) }
        | none =>
          match after? "data:".toList line with
          | some v => { f with data := dataLine v :: f.data }
          | none => f

/-- The fields of a frame. -/
def ofFrame (frame : String) : Fields := (Text.lines frame.toList).foldl addLine empty

/-- The text of the data, if there is any. -/
def dataText (f : Fields) : Option String :=
  if f.data.isEmpty then none else some (String.ofList (Text.joinWith ['\n'] f.data.reverse))

end Fields

/-- The message of a frame, with its data read by `readData`. -/
def Message.ofFrame {α : Type} (readData : String → Except Json.Fault α) (frame : String) :
    Except Json.Fault (Message α) := do
  let f := Fields.ofFrame frame
  let data ← match f.dataText with
    | none => .ok none
    | some s => some <$> readData s
  .ok ⟨f.id, f.event, f.retry, f.comment, data⟩

end CameraFeed.EventStream
