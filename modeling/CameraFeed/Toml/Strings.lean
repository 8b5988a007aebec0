import CameraFeed.Json.Strings
import CameraFeed.Text.Blank

/-! # Strings — keys, strings and comments of a settings file

  Readers here take something off the front of a text, or fail. Strings come in four kinds: with
  escapes or without, on one line or over many. -/

namespace CameraFeed.Toml

/-- A reader takes a value off the front of a text. -/
abbrev Reader (α : Type) := List Char → Option (α × List Char)

/-! ### White space -/

/-- A space or a tab. -/
def isSpace (c : Char) : Bool := c == ' ' || c == '\t'

/-- What follows the spaces and tabs. -/
def skipSpaces (cs : List Char) : List Char := cs.dropWhile isSpace

/-- The character may be in a comment or a string: a tab, or anything that controls nothing. -/
def isPlain (c : Char) : Bool := c == '\t' || (0x20 ≤ c.toNat && c.toNat != 0x7F)

/-- What follows the line end at the front, if there is one. -/
def newline? : List Char → Option (List Char)
  | '\n' :: rest => some rest
  | '\r' :: '\n' :: rest => some rest
  | _ => none

/-- What follows a comment, if the text starts with one. -/
def skipComment : List Char → List Char
  | '#' :: rest => rest.dropWhile isPlain
  | cs => cs

/-- What follows spaces, comments and line ends. -/
def skipLines : Nat → List Char → List Char
  | 0, cs => cs
  | fuel + 1, cs =>
    let cs := skipComment (skipSpaces cs)
    match newline? cs with
    | some rest => skipLines fuel rest
    | none => cs

/-- What follows spaces, comments and line ends. -/
def skipBlank (cs : List Char) : List Char := skipLines (cs.length + 1) cs

/-! ### Escapes -/

/-- The number that digits of base 16 stand for. -/
def hexNumber? (cs : List Char) : Option Nat := do
  let ds ← cs.mapM Json.hexValue?
  some (ds.foldl (fun n d => 16 * n + d) 0)

/-- The character that a number of digits of base 16 stand for. -/
def hexChar (count : Nat) : Reader Char := fun cs => do
  let ds := cs.take count
  let n ← hexNumber? ds
  if ds.length = count ∧ n.isValidChar then some (Char.ofNat n, cs.drop count) else none

/-- The character of an escape, of which the backslash was taken. -/
def escape : Reader Char
  | 'b' :: rest => some ('\x08', rest)
  | 't' :: rest => some ('\t', rest)
  | 'n' :: rest => some ('\n', rest)
  | 'f' :: rest => some ('\x0c', rest)
  | 'r' :: rest => some ('\r', rest)
  | 'e' :: rest => some ('\x1b', rest)
  | '"' :: rest => some ('"', rest)
  | '\\' :: rest => some ('\\', rest)
  | 'x' :: rest => hexChar 2 rest
  | 'u' :: rest => hexChar 4 rest
  | 'U' :: rest => hexChar 8 rest
  | _ => none

/-! ### On one line -/

/-- The characters of a string with escapes, up to its closing mark. -/
def basicChars : Nat → Reader (List Char)
  | 0, _ => none
  | _ + 1, '"' :: rest => some ([], rest)
  | fuel + 1, '\\' :: rest => do
    let (c, rest) ← escape rest
    let (cs, rest) ← basicChars fuel rest
    some (c :: cs, rest)
  | fuel + 1, c :: rest =>
    if isPlain c then do
      let (cs, rest) ← basicChars fuel rest
      some (c :: cs, rest)
    else none
  | _, [] => none

/-- The characters of a string without escapes, up to its closing mark. -/
def literalChars : Reader (List Char)
  | [] => none
  | c :: rest =>
    if c = '\'' then some ([], rest)
    else if isPlain c then do
      let (cs, rest) ← literalChars rest
      some (c :: cs, rest)
    else none

/-! ### Over many lines -/

/-- The number of marks at the front that belong to the string, if it ends there: the last three
of up to five close it. -/
def closing? (mark : Char) (cs : List Char) : Option Nat :=
  let n := (cs.takeWhile (· == mark)).length
  if 3 ≤ n then some (min n 5 - 3) else none

/-- What follows spaces, tabs and line ends. -/
def skipEmptyLines : Nat → List Char → List Char
  | 0, cs => cs
  | fuel + 1, cs =>
    match newline? (skipSpaces cs) with
    | some rest => skipEmptyLines fuel rest
    | none => skipSpaces cs

/-- What follows the white space after a backslash at the end of a line. -/
def skipFold (cs : List Char) : Option (List Char) :=
  (newline? (skipSpaces cs)).map fun rest => skipEmptyLines (rest.length + 1) rest

/-- The characters of a string over many lines, up to its closing marks. Line ends stay as they are
written. -/
def manyChars (mark : Char) (escapes : Bool) : Nat → Reader (List Char)
  | 0, _ => none
  | fuel + 1, cs =>
    match closing? mark cs with
    | some n => some (List.replicate n mark, cs.drop (n + 3))
    | none =>
      match cs with
      | [] => none
      | c :: rest =>
        if escapes ∧ c = '\\' then
          match skipFold rest with
          | some rest => manyChars mark escapes fuel rest
          | none => do
            let (c, rest) ← escape rest
            let (cs, rest) ← manyChars mark escapes fuel rest
            some (c :: cs, rest)
        else
          if isPlain c ∨ c = '\n' ∨ (c = '\r' ∧ rest.head? = some '\n') then do
            let (cs, rest) ← manyChars mark escapes fuel rest
            some (c :: cs, rest)
          else none

/-- A string over many lines, whose opening marks were taken. A line end right after them does not
belong to it. -/
def manyLines (mark : Char) (escapes : Bool) : Reader (List Char) := fun cs =>
  let cs := (newline? cs).getD cs
  manyChars mark escapes (cs.length + 1) cs

/-! ### Strings and keys -/

/-- A string on one line. -/
def lineString : Reader (List Char)
  | '"' :: rest => basicChars (rest.length + 1) rest
  | '\'' :: rest => literalChars rest
  | _ => none

/-- A string of any kind. -/
def string : Reader String := fun cs => do
  let (cs, rest) ← match cs with
    | '"' :: '"' :: '"' :: rest => manyLines '"' true rest
    | '\'' :: '\'' :: '\'' :: rest => manyLines '\'' false rest
    | cs => lineString cs
  some (String.ofList cs, rest)

/-- The character may be in a key without marks. -/
def isBare (c : Char) : Bool := c.isAlphanum || c == '_' || c == '-'

/-- A key without dots. -/
def simpleKey : Reader String := fun cs =>
  match cs with
  | '"' :: _ | '\'' :: _ => do
    let (key, rest) ← lineString cs
    some (String.ofList key, rest)
  | cs =>
    let key := cs.takeWhile isBare
    if key.isEmpty then none else some (String.ofList key, cs.drop key.length)

/-- The keys after the first one, each after a dot. -/
def moreKeys : Nat → Reader (List String)
  | 0, _ => none
  | fuel + 1, cs =>
    match skipSpaces cs with
    | '.' :: rest => do
      let (key, rest) ← simpleKey (skipSpaces rest)
      let (keys, rest) ← moreKeys fuel rest
      some (key :: keys, rest)
    | rest => some ([], rest)

/-- The number of names that a key may have, and the number of brackets that may be open at once. -/
def depthLimit : Nat := 80

/-- A key with dots, and what follows the spaces after it. -/
def key : Reader (List String) := fun cs => do
  let (first, rest) ← simpleKey cs
  let (keys, rest) ← moreKeys (rest.length + 1) rest
  if depthLimit ≤ keys.length then none else some (first :: keys, rest)

end CameraFeed.Toml
