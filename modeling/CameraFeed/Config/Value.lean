import CameraFeed.Toml.Document

/-! # Value — untyped settings

  Settings are read from files and from the environment. A value carries its place, which is shown
  in the messages about it. A table that results from a merge has none, since its entries may have
  different places. -/

namespace CameraFeed.Config

/-- Where a value came from. -/
inductive Origin where
  | file (name : String)
  | environment
  deriving DecidableEq, Repr

/-- A place as it is shown in a message. -/
def Origin.text : Origin → String
  | file name => name
  | environment => "the environment"

/-- A value that is not made of others. -/
inductive Scalar where
  | boolean (b : Bool)
  | integer (n : Int)
  | float (x : Toml.Float)
  | text (s : String)
  deriving DecidableEq, Repr

/-- A setting. -/
inductive Value where
  /-- Nothing was set. -/
  | nothing
  | scalar (s : Scalar) (origin : Origin)
  | array (items : List Value) (origin : Option Origin)
  | table (entries : List (String × Value)) (origin : Option Origin)
  deriving Repr, Inhabited

namespace Value

mutual

/-- The setting of a value in a file. -/
def ofToml (origin : Origin) : Toml → Value
  | .text s => scalar (.text s) origin
  | .integer n => scalar (.integer n) origin
  | .float x => scalar (.float x) origin
  | .boolean b => scalar (.boolean b) origin
  | .moment s => scalar (.text s) origin
  | .array items => array (itemsOfToml origin items) (some origin)
  | .table entries => table (entriesOfToml origin entries) (some origin)

/-- The settings of the items of an array. -/
def itemsOfToml (origin : Origin) : List Toml → List Value
  | [] => []
  | v :: rest => ofToml origin v :: itemsOfToml origin rest

/-- The settings of the entries of a table. -/
def entriesOfToml (origin : Origin) : List (String × Toml) → List (String × Value)
  | [] => []
  | (name, v) :: rest => (name, ofToml origin v) :: entriesOfToml origin rest

end

/-! ### Places in a setting -/

/-- The entries of a table, none of anything else. -/
def entries : Value → List (String × Value)
  | table entries _ => entries
  | _ => []

/-- The items of an array, none of anything else. -/
def items : Value → List Value
  | array items _ => items
  | _ => []

/-- Where an array came from. -/
def arrayOrigin : Value → Option Origin
  | array _ origin => origin
  | _ => none

/-- Where a table came from. -/
def tableOrigin : Value → Option Origin
  | table _ origin => origin
  | _ => none

/-- Changes the entry of a name, which is nothing at first. -/
def changeEntry (name : String) (change : Value → Value) :
    List (String × Value) → List (String × Value)
  | [] => [(name, change nothing)]
  | (n, v) :: rest =>
    if n = name then (n, change v) :: rest else (n, v) :: changeEntry name change rest

/-- Changes the entry of a name. A value that is no table becomes a table. -/
def atName (name : String) (change : Value → Value) (v : Value) : Value :=
  table (changeEntry name change v.entries) v.tableOrigin

/-- Changes the item of an index. A value that is no array becomes an array; a negative index counts
from the end, and missing items on either side are filled with `nothing`. -/
def atIndex (index : Int) (change : Value → Value) (v : Value) : Value :=
  let items := v.items
  let place : Int := if index < 0 then items.length + index else index
  let items := List.replicate (-place).toNat nothing ++ items
  let i := place.toNat
  let items := items ++ List.replicate (i + 1 - items.length) nothing
  array (items.modify i change) v.arrayOrigin

/-! ### Layers -/

mutual

/-- Lays a setting over another one. The entries of a table are laid over one by one; any other
value replaces the one below. -/
def layer : Value → Value → Value
  | table entries _, v =>
    layerEntries entries (match v with
      | table before origin => table before origin
      | _ => table [] none)
  | w, _ => w

/-- Lays the entries of a table over a setting. -/
def layerEntries : List (String × Value) → Value → Value
  | [], v => v
  | (name, w) :: rest, v => layerEntries rest (v.atName name w.layer)

end

end Value

/-! ### Paths -/

/-- A step into a setting. -/
inductive Step where
  | name (s : String)
  | index (n : Int)
  deriving DecidableEq, Repr

/-- Where a setting belongs. -/
abbrev Path := List Step

/-- The character may be in a name on a path. -/
def isNameChar (c : Char) : Bool := c.isAlphanum || c == '_' || c == '-'

/-- The number in square brackets, of which the first was taken, and what follows the second.
Spaces and tabs may stand around the number. -/
def index? (cs : List Char) : Option (Int × List Char) :=
  let (negative, rest) := match Toml.skipSpaces cs with
    | '-' :: rest => (true, rest)
    | rest => (false, rest)
  let ds := rest.takeWhile Decimal.isDigit
  let n : Int := Decimal.value ds
  let n := if negative then -n else n
  match Toml.skipSpaces (rest.drop ds.length) with
  | ']' :: rest => if ds.isEmpty ∨ ¬ Json.fitsSigned n then none else some (n, rest)
  | _ => none

/-- The steps after the first name: names after dots, and numbers in square brackets. -/
def steps? : Nat → List Char → Option Path
  | _, [] => some []
  | 0, _ => none
  | fuel + 1, '.' :: rest =>
    let name := rest.takeWhile isNameChar
    if name.isEmpty then none
    else do
      let path ← steps? fuel (rest.drop name.length)
      some (.name (String.ofList name) :: path)
  | fuel + 1, '[' :: rest => do
    let (n, rest) ← index? rest
    let path ← steps? fuel rest
    some (.index n :: path)
  | _, _ => none

/-- The path of a key. A key that is no path is a name as it stands. -/
def pathOf (key : String) : Path :=
  let name := key.toList.takeWhile isNameChar
  match steps? key.length (key.toList.drop name.length) with
  | some path => if name.isEmpty then [.name key] else .name (String.ofList name) :: path
  | none => [.name key]

/-- Changes what stands at a path. -/
def Value.atPath (change : Value → Value) : Path → Value → Value
  | [], v => change v
  | .name s :: path, v => v.atName s (Value.atPath change path)
  | .index n :: path, v => v.atIndex n (Value.atPath change path)

/-- Lays a setting over what stands at the path of a key. -/
def Value.set (v : Value) (key : String) (w : Value) : Value := Value.atPath w.layer (pathOf key) v

/-- Lays settings over one another, each at the path of its key. -/
def Value.setAll (v : Value) (settings : List (String × Value)) : Value :=
  settings.foldl (fun v s => v.set s.1 s.2) v

end CameraFeed.Config
