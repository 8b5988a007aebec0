import CameraFeed.Feed.Projection

/-! # Table — rows as plain text

  Every column is as wide as its widest cell, counted in characters, and two spaces apart from the
  next. No line ends in white space. The lines of a payload stand below its row, indented by four
  spaces. -/

namespace CameraFeed.Feed.Table

/-- The names of the columns. -/
def header : List String := ["#", "ID", "DEVICE", "CODE", "ACTION", "INDEX", "CREATED"]

/-- The cells of a row. -/
def cells (r : Row) : List String :=
  [Decimal.text r.seq, r.id, r.device, r.code, r.action, Decimal.signedText r.index, r.created]

/-! ### Columns -/

/-- The widths of columns that hold some cells beside others. -/
def widen (widths : List Nat) (line : List String) : List Nat :=
  List.zipWith (fun width cell => max width cell.length) widths line

/-- The widths of the columns of a table. -/
def widths (rows : List Row) : List Nat :=
  (rows.map cells).foldl widen (header.map String.length)

/-- A cell with spaces up to the width of its column. -/
def padded (width : Nat) (cell : String) : List Char :=
  cell.toList ++ List.replicate (width - cell.length) ' '

/-- A line of cells. -/
def line (widths : List Nat) (cells : List String) : List Char :=
  Text.trimEnd (Text.joinWith [' ', ' '] (List.zipWith padded widths cells))

/-! ### The whole -/

/-- The lines that a payload takes. -/
def payloadLines : Payload → List (List Char)
  | .collapsed => []
  | .expanded text => (Text.lines text.toList).map ("    ".toList ++ ·)
  | .failed reason => ["    ⚠️ unable to format payload: ".toList ++ reason.toList]

/-- The lines that a row takes. -/
def rowLines (widths : List Nat) (r : Row) : List (List Char) :=
  line widths (cells r) :: payloadLines r.payload

/-- The lines of a table. -/
def lines (rows : List Row) : List (List Char) :=
  let widths := widths rows
  line widths header :: rows.flatMap (rowLines widths)

/-- The table, each line with its line end. -/
def text (rows : List Row) : String := String.ofList ((lines rows).flatMap (· ++ ['\n']))

end CameraFeed.Feed.Table
