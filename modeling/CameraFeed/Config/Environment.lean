import CameraFeed.Config.Value
import CameraFeed.Text.Utf8

/-! # Environment — settings from variables

  A variable gives a setting if its name starts with the prefix. What follows is the key, in lower
  case, with dots for double underscores. -/

namespace CameraFeed.Config.Environment

/-- What the names of variables start with, in any case. -/
def start : List Char := "ipcmanview__".toList

/-- The lower case of a letter of ASCII, or of the sign of the kelvin: beyond ASCII no other letter
has its lower case within ASCII, where the names of all settings are. -/
def lowered (c : Char) : Char := if c = '\u212A' then 'k' else c.toLower

/-- A name with dots for double underscores. -/
def dotted : List Char → List Char
  | '_' :: '_' :: rest => '.' :: dotted rest
  | c :: rest => c :: dotted rest
  | [] => []

/-- The key of a variable, if it gives a setting. -/
def key? (name : String) : Option String :=
  let lower := name.toList.map lowered
  if start.isPrefixOf lower then some (String.ofList (dotted (lower.drop start.length))) else none

/-- The settings of variables, with their keys. -/
def settings (environment : List (String × String)) : List (String × Value) :=
  environment.filterMap fun (name, text) =>
    (key? name).map fun key => (key, .scalar (.text text) .environment)

/-- The variables of a block of octets, in which each is a name and a value with an equals sign
between them and a zero at the end. -/
def ofBlock (block : List UInt8) : List (String × String) :=
  (Text.pieces (· == 0) block).filterMap fun entry =>
    match entry.span (· != 0x3D) with
    | (_, []) => none
    | (name, _ :: value) => do
      let name ← Text.Utf8.text? name
      let value ← Text.Utf8.text? value
      some (name, value)

end CameraFeed.Config.Environment
