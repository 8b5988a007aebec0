import CameraFeed.EventStream.Message
import CameraFeed.Proofs.Text.Lines

/-! # Fields — the lines of a frame

  A line of a frame is a line of data, or another field by the name it starts with. The data of the
  frame depend only on its lines of data, in their order. -/

namespace CameraFeed.EventStream

/-! ### Lines -/

/-- A line: nothing in it ends one. -/
structure Line where
  chars : List Char
  noFeed : '\n' ∉ chars
  noReturn : '\r' ∉ chars

/-- The fields beside the data. -/
inductive Label where
  | id
  | event
  | retry
  | comment
  deriving DecidableEq, Repr

/-- The name with which a line of a field starts. -/
def Label.name : Label → List Char
  | id => "id:".toList
  | event => "event:".toList
  | retry => "retry:".toList
  | comment => ":".toList

/-- A line of a frame. -/
inductive FieldLine where
  /-- A line of the data, after a name and a space. -/
  | data (line : Line)
  | other (label : Label) (value : Line)

namespace FieldLine

/-- A line of a frame as it is written. -/
def chars : FieldLine → List Char
  | data line => "data: ".toList ++ line.chars
  | other label value => label.name ++ value.chars

/-- The line of the data that a line of a frame is, if it is one. -/
def data? : FieldLine → Option (List Char)
  | data line => some line.chars
  | other _ _ => none

/-- Every line of a frame has its name in it. -/
theorem colon_mem_chars (l : FieldLine) : ':' ∈ l.chars := by
  cases l with
  | data line => exact List.mem_append_left _ (by decide)
  | other label value =>
    refine List.mem_append_left _ ?_
    cases label <;> decide

theorem chars_ne_nil (l : FieldLine) : l.chars ≠ [] :=
  List.ne_nil_of_mem l.colon_mem_chars

/-- No line of a frame has a line end in it. -/
theorem noFeed (l : FieldLine) : '\n' ∉ l.chars := by
  cases l with
  | data line => exact List.not_mem_append (by decide) line.noFeed
  | other label value =>
    refine List.not_mem_append ?_ value.noFeed
    cases label <;> decide

theorem noReturn (l : FieldLine) : '\r' ∉ l.chars := by
  cases l with
  | data line => exact List.not_mem_append (by decide) line.noReturn
  | other label value =>
    refine List.not_mem_append ?_ value.noReturn
    cases label <;> decide

end FieldLine

/-! ### Taking lines -/

namespace Fields

/-- An empty line changes nothing. -/
theorem addLine_nil (f : Fields) : f.addLine [] = f := rfl

/-- A line of the data is put to the data. -/
theorem data_addLine_data (f : Fields) (line : Line) :
    (f.addLine (FieldLine.data line).chars).data = line.chars :: f.data := rfl

/-- The other fields leave the data alone. -/
theorem data_addLine_other (f : Fields) (label : Label) (value : Line) :
    (f.addLine (FieldLine.other label value).chars).data = f.data := by
  cases label <;> rfl

/-- The data after some lines of a frame are those of its lines that are data. -/
theorem data_foldl_addLine (lines : List FieldLine) (f : Fields) :
    ((lines.map FieldLine.chars).foldl addLine f).data
      = (lines.filterMap FieldLine.data?).reverse ++ f.data := by
  induction lines generalizing f with
  | nil => rfl
  | cons l ls ih =>
    rw [List.map_cons, List.foldl_cons, ih]
    cases l with
    | data line =>
      rw [data_addLine_data]
      simp [FieldLine.data?]
    | other label value =>
      rw [data_addLine_other]
      simp [FieldLine.data?, List.filterMap_cons]

end Fields

end CameraFeed.EventStream
