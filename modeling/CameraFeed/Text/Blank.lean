import CameraFeed.Text.Pieces

/-! # Blank — white space, words and lines

  Trimming and splitting into words go by the Unicode property `White_Space`. Lines end at a line
  feed alone; a carriage return before it belongs to the line end, one elsewhere is a character
  like any other. -/

namespace CameraFeed.Text

/-- The Unicode property `White_Space`. -/
def isBlank (c : Char) : Bool :=
  let n := c.toNat
  (0x09 ≤ n && n ≤ 0x0D) || n == 0x20 || n == 0x85 || n == 0xA0 || n == 0x1680
    || (0x2000 ≤ n && n ≤ 0x200A) || n == 0x2028 || n == 0x2029 || n == 0x202F || n == 0x205F
    || n == 0x3000

/-! ### Trimming -/

/-- The characters from the first one that is not blank. -/
def trimStart (cs : List Char) : List Char := cs.dropWhile isBlank

/-- The characters up to the last one that is not blank. -/
def trimEnd (cs : List Char) : List Char := (cs.reverse.dropWhile isBlank).reverse

/-- The characters between the first and the last one that is not blank. -/
def trim (cs : List Char) : List Char := trimEnd (trimStart cs)

/-- A text without the white space at its two ends. -/
def trimmed (s : String) : String := String.ofList (trim s.toList)

/-- The text is blank throughout. -/
def allBlank (cs : List Char) : Bool := cs.all isBlank

/-! ### Words and lines -/

/-- The stretches without white space, in order. -/
def words (cs : List Char) : List (List Char) :=
  (pieces isBlank cs).filter fun w => !w.isEmpty

/-- The words of a text. -/
def wordsOf (s : String) : List String := (words s.toList).map String.ofList

/-- A line without the carriage return of its line end. -/
def dropReturn (line : List Char) : List Char :=
  if line.getLast? = some '\r' then line.dropLast else line

/-- The lines that the pieces between line feeds are. A final line feed ends a line and starts none;
a last piece without one keeps all its characters. -/
def linesOf : List (List Char) → List (List Char)
  | [] => []
  | [last] => if last.isEmpty then [] else [last]
  | line :: rest => dropReturn line :: linesOf rest

/-- The lines of a text, without their line ends. -/
def lines (cs : List Char) : List (List Char) := linesOf (pieces (· == '\n') cs)

/-- Lines given back with a separator between them. -/
def joinWith (separator : List Char) : List (List Char) → List Char
  | [] => []
  | [line] => line
  | line :: rest => line ++ separator ++ joinWith separator rest

end CameraFeed.Text
