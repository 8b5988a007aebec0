import CameraFeed.Binary64.Notation
import CameraFeed.Decimal.Numeral
import CameraFeed.Text.Quoted

/-! # Fault — why and where a text is not read

  A fault is a cause with a place in the text. There are three kinds of causes: the text ends too
  early, it is not in the format, or its content is not of the expected kind. -/

namespace CameraFeed.Json

/-! ### Places -/

/-- A place in a text: its line, from one on, and the octets before it on that line. -/
structure Place where
  line : Nat
  column : Nat
  deriving DecidableEq, Repr, Inhabited

namespace Place

/-- The beginning of a text. -/
def start : Place := ⟨1, 0⟩

/-- The place after a character. -/
def after (p : Place) (c : Char) : Place :=
  if c = '\n' then ⟨p.line + 1, 0⟩ else ⟨p.line, p.column + c.utf8Size⟩

/-- The place after the first octet of a character. -/
def afterOctet (p : Place) (c : Char) : Place :=
  if c = '\n' then ⟨p.line + 1, 0⟩ else ⟨p.line, p.column + 1⟩

/-- The place after all characters of a text. -/
def afterAll (p : Place) (cs : List Char) : Place := cs.foldl after p

/-- The place after some octets of a text, if it has so many. -/
def afterOctets : Nat → List Char → Place → Option Place
  | 0, _, p => some p
  | _ + 1, [], _ => none
  | n + 1, c :: cs, p =>
    if c.utf8Size ≤ n + 1 then afterOctets (n + 1 - c.utf8Size) cs (p.after c)
    else some ⟨p.line, p.column + (n + 1)⟩
termination_by _ cs _ => cs.length

end Place

/-! ### Causes -/

/-- The kind of value that was found instead of the one expected. -/
inductive Found where
  | null
  | boolean (b : Bool)
  | integer (n : Int)
  | float (x : Binary64)
  | text (s : String)
  | sequence
  | map
  deriving DecidableEq, Repr

/-- What was found, in words. -/
def Found.message : Found → String
  | null => "null"
  | boolean b => "boolean `" ++ (if b then "true" else "false") ++ "`"
  | integer n => "integer `" ++ Decimal.signedText n ++ "`"
  | float x => "floating point `" ++ String.ofList (Binary64.write .json x) ++ "`"
  | text s => "string " ++ Text.quoted s
  | sequence => "sequence"
  | map => "map"

/-- Content that is not what was asked for. -/
inductive Mismatch where
  /-- A value of another kind. -/
  | wrongType (found : Found) (expected : String)
  /-- A value of the right kind that cannot be meant. -/
  | wrongValue (found : Found) (expected : String)
  /-- A sequence that ends after too few items. -/
  | wrongLength (length : Nat) (expected : String)
  /-- A field that has to be there. -/
  | missingField (name : String)
  /-- A field that is there twice. -/
  | duplicateField (name : String)
  /-- None of the forms a value may take. -/
  | noVariant (name : String)
  /-- A string that has no meaning as what it is for. -/
  | refused (reason : String)
  deriving DecidableEq, Repr

/-- The message of a mismatch. -/
def Mismatch.message : Mismatch → String
  | wrongType found expected => "invalid type: " ++ found.message ++ ", expected " ++ expected
  | wrongValue found expected => "invalid value: " ++ found.message ++ ", expected " ++ expected
  | wrongLength n expected => "invalid length " ++ Decimal.text n ++ ", expected " ++ expected
  | missingField name => "missing field `" ++ name ++ "`"
  | duplicateField name => "duplicate field `" ++ name ++ "`"
  | noVariant name => "data did not match any variant of untagged enum " ++ name
  | refused reason => reason

/-- Why a text could not be read. -/
inductive Cause where
  | eofList
  | eofObject
  | eofString
  | eofValue
  | expectedColon
  | expectedListEnd
  | expectedObjectEnd
  | expectedIdent
  | expectedValue
  | invalidEscape
  | invalidNumber
  | numberOutOfRange
  | controlCharacter
  | keyNotString
  | loneSurrogate
  | trailingComma
  | trailingCharacters
  | endOfEscape
  | recursionLimit
  | content (mismatch : Mismatch)
  deriving DecidableEq, Repr

/-- The message of a cause. -/
def Cause.message : Cause → String
  | eofList => "EOF while parsing a list"
  | eofObject => "EOF while parsing an object"
  | eofString => "EOF while parsing a string"
  | eofValue => "EOF while parsing a value"
  | expectedColon => "expected `:`"
  | expectedListEnd => "expected `,` or `]`"
  | expectedObjectEnd => "expected `,` or `\x7d`"
  | expectedIdent => "expected ident"
  | expectedValue => "expected value"
  | invalidEscape => "invalid escape"
  | invalidNumber => "invalid number"
  | numberOutOfRange => "number out of range"
  | controlCharacter => "control character (\\u0000-\\u001F) found while parsing a string"
  | keyNotString => "key must be a string"
  | loneSurrogate => "lone leading surrogate in hex escape"
  | trailingComma => "trailing comma"
  | trailingCharacters => "trailing characters"
  | endOfEscape => "unexpected end of hex escape"
  | recursionLimit => "recursion limit exceeded"
  | content mismatch => mismatch.message

/-- The three kinds of causes. -/
inductive Category where
  /-- The text is not in the format. -/
  | malformed
  /-- The text ends too early. -/
  | cutShort
  /-- The content is not what was asked for. -/
  | content
  deriving DecidableEq, Repr

/-- The kind of a cause. -/
def Cause.category : Cause → Category
  | eofList | eofObject | eofString | eofValue => .cutShort
  | content _ => .content
  | _ => .malformed

/-- A cause and where it was met. -/
structure Fault where
  cause : Cause
  place : Place
  deriving DecidableEq, Repr

/-- The message of a fault. -/
def Fault.message (f : Fault) : String :=
  f.cause.message ++ " at line " ++ Decimal.text f.place.line ++ " column "
    ++ Decimal.text f.place.column

end CameraFeed.Json
