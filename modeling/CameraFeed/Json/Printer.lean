import CameraFeed.Binary64.Notation
import CameraFeed.Decimal.Numeral
import CameraFeed.Json.Basic
import CameraFeed.Text.Blank

/-! # Printer — values as text

  `compact` writes no white space. `pretty` gives each item and each member a line of its own,
  indented by two spaces for every bracket around it; empty brackets stay closed. In strings only
  quotation marks, backslashes and control characters are escaped, so a printed value has line
  feeds nowhere but between its lines. -/

namespace CameraFeed.Json

/-! ### Scalars -/

/-- A digit of base 16. -/
def hexDigit (n : Nat) : Char := Nat.digitChar n

/-- A character inside a string. -/
def escapedChar (c : Char) : List Char :=
  if c = '"' then ['\\', '"']
  else if c = '\\' then ['\\', '\\']
  else if c = '\n' then ['\\', 'n']
  else if c = '\r' then ['\\', 'r']
  else if c = '\t' then ['\\', 't']
  else if c.toNat = 8 then ['\\', 'b']
  else if c.toNat = 12 then ['\\', 'f']
  else if c.toNat < 32 then ['\\', 'u', '0', '0', hexDigit (c.toNat / 16), hexDigit (c.toNat % 16)]
  else [c]

/-- A string between quotation marks. -/
def writtenText (s : String) : List Char := '"' :: (s.toList.flatMap escapedChar ++ ['"'])

/-- A number. -/
def Number.written : Number → List Char
  | .integer n => Decimal.signedDigits n
  | .float x => Binary64.write .json x

/-- A truth value. -/
def writtenBoolean (b : Bool) : List Char := if b then "true".toList else "false".toList

/-! ### One line -/

mutual

/-- A value without white space. -/
def compact : Json → List Char
  | .null => "null".toList
  | .boolean b => writtenBoolean b
  | .number n => n.written
  | .text s => writtenText s
  | .array items => '[' :: (compactItems items ++ [']'])
  | .object members => '\x7b' :: (compactMembers members ++ ['\x7d'])

/-- The items of an array with commas between them. -/
def compactItems : List Json → List Char
  | [] => []
  | [v] => compact v
  | v :: rest => compact v ++ ',' :: compactItems rest

/-- The members of an object with commas between them. -/
def compactMembers : List (String × Json) → List Char
  | [] => []
  | [(name, v)] => writtenText name ++ ':' :: compact v
  | (name, v) :: rest => writtenText name ++ ':' :: (compact v ++ ',' :: compactMembers rest)

end

/-- A value as text without white space. -/
def compactText (v : Json) : String := String.ofList v.compact

/-! ### Many lines -/

/-- A line end and the indentation of the next line. -/
def newLine (depth : Nat) : List Char := '\n' :: List.replicate (2 * depth) ' '

mutual

/-- A value with a line for each item and member, inside `depth` brackets. -/
def pretty (depth : Nat) : Json → List Char
  | .null => "null".toList
  | .boolean b => writtenBoolean b
  | .number n => n.written
  | .text s => writtenText s
  | .array [] => ['[', ']']
  | .array (v :: rest) => '[' :: (prettyItems (depth + 1) (v :: rest) ++ newLine depth ++ [']'])
  | .object [] => ['\x7b', '\x7d']
  | .object (m :: rest) =>
    '\x7b' :: (prettyMembers (depth + 1) (m :: rest) ++ newLine depth ++ ['\x7d'])

/-- The items of an array, each on a new line. -/
def prettyItems (depth : Nat) : List Json → List Char
  | [] => []
  | [v] => newLine depth ++ pretty depth v
  | v :: rest => newLine depth ++ pretty depth v ++ ',' :: prettyItems depth rest

/-- The members of an object, each on a new line. -/
def prettyMembers (depth : Nat) : List (String × Json) → List Char
  | [] => []
  | [(name, v)] => newLine depth ++ writtenText name ++ ':' :: ' ' :: pretty depth v
  | (name, v) :: rest =>
    newLine depth ++ writtenText name ++ ':' :: ' ' ::
      (pretty depth v ++ ',' :: prettyMembers depth rest)

end

/-- A value as text over several lines. -/
def prettyText (v : Json) : String := String.ofList (v.pretty 0)

/-- Writes a value as text over several lines. The writer fails on a name that is not a string, and
the names of a value are strings. -/
def writePretty (v : Json) : Except String String := .ok v.prettyText

end CameraFeed.Json
