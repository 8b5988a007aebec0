import CameraFeed.Toml.Scalars

/-! # Document — tables of a settings file

  A file is a list of lines: entries, and headers that say which table the entries after them
  belong to. No entry is given twice, and no table is opened twice. A key with dots makes tables on
  its way, which no header may open; a header makes the tables on its way too, and those may still
  be opened once. A key with dots may add to tables of either kind. -/

namespace CameraFeed.Toml

/-! ### Tables under construction -/

/-- How a table came to be. -/
inductive Made where
  /-- By its own header. -/
  | opened
  /-- On the way of another header. -/
  | passed
  /-- On the way of a key with dots. -/
  | dotted
  deriving DecidableEq, Repr

/-- What stands under a name. -/
inductive Node where
  /-- A value, which nothing can be added to. -/
  | value (v : Toml)
  | table (made : Made) (entries : List (String × Node))
  /-- A list of tables, the last one first. -/
  | series (tables : List (List (String × Node)))

/-- The entries of a table. -/
abbrev Entries := List (String × Node)

/-- Replaces the node of a name, or puts it in. -/
def put (name : String) (node : Node) : Entries → Entries
  | [] => [(name, node)]
  | (n, m) :: rest => if n = name then (n, node) :: rest else (n, m) :: put name node rest

/-- Changes the table at the end of a path, from the entries in which the path starts. A list of
tables stands for its last one. With `dotted` the path belongs to a key: the tables on it must not
have been opened, and it does not end at a list. -/
def within (dotted : Bool) (change : Entries → Option Entries) :
    List String → Entries → Option Entries
  | [], entries => change entries
  | name :: path, entries =>
    match entries.lookup name with
    | none => do
      let inner ← within dotted change path []
      some (put name (.table (if dotted then .dotted else .passed) inner) entries)
    | some (.table made inner) =>
      -- A table with a header of its own is complete, apart from tables with headers below it.
      if dotted ∧ made = .opened then none
      else do
        let inner ← within dotted change path inner
        some (put name (.table made inner) entries)
    | some (.series (last :: before)) =>
      -- The tables of a list have headers too, but the way to other tables may lead through them.
      if dotted ∧ path.isEmpty then none
      else do
        let last ← within dotted change path last
        some (put name (.series (last :: before)) entries)
    | some _ => none

/-- Adds an entry under a key with dots. -/
def addEntry (key : List String) (v : Toml) (entries : Entries) : Option Entries :=
  let add (entries : Entries) : Option Entries :=
    match key.getLast? with
    | none => none
    | some name =>
      match entries.lookup name with
      | some _ => none
      | none => some (put name (.value v) entries)
  within true add key.dropLast entries

/-- Opens the table of a header. -/
def openTable (key : List String) (entries : Entries) : Option Entries :=
  let change (entries : Entries) : Option Entries :=
    match key.getLast? with
    | none => none
    | some name =>
      match entries.lookup name with
      | none => some (put name (.table .opened []) entries)
      | some (.table .passed inner) => some (put name (.table .opened inner) entries)
      | some _ => none
  within false change key.dropLast entries

/-- Opens a new table in the list of a header. -/
def openSeries (key : List String) (entries : Entries) : Option Entries :=
  let change (entries : Entries) : Option Entries :=
    match key.getLast? with
    | none => none
    | some name =>
      match entries.lookup name with
      | none => some (put name (.series [[]]) entries)
      | some (.series tables) => some (put name (.series ([] :: tables)) entries)
      | some _ => none
  within false change key.dropLast entries

mutual

/-- A node as a value. -/
def Node.finished : Node → Toml
  | .value v => v
  | .table _ entries => .table (finishedEntries entries)
  | .series tables => .array (finishedTables tables)

/-- The entries of a table as values. -/
def finishedEntries : List (String × Node) → List (String × Toml)
  | [] => []
  | (name, node) :: rest => (name, node.finished) :: finishedEntries rest

/-- The tables of a list as values, the first one first. -/
def finishedTables : List (List (String × Node)) → List Toml
  | [] => []
  | entries :: before => finishedTables before ++ [.table (finishedEntries entries)]

end

/-! ### Values -/

/-- The items of an array, up to its end. -/
def arrayItems (item : Reader Toml) : Nat → Reader (List Toml)
  | 0, _ => none
  | fuel + 1, cs =>
    match skipBlank cs with
    | ']' :: rest => some ([], rest)
    | cs => do
      let (v, rest) ← item cs
      match skipBlank rest with
      | ',' :: rest => do
        let (vs, rest) ← arrayItems item fuel rest
        some (v :: vs, rest)
      | ']' :: rest => some ([v], rest)
      | _ => none

/-- A key, the equals sign and a value. What may stand around the sign is passed by `skip`. -/
def keyAndValue (skip : List Char → List Char) (item : Reader Toml) :
    Reader (List String × Toml) := fun cs => do
  let (k, rest) ← key cs
  let rest ← mark '=' (skip rest)
  let (v, rest) ← item (skip rest)
  some ((k, v), rest)

/-- The entries of a table in braces, up to its end. They may stand on many lines. -/
def inlineEntries (item : Reader Toml) : Nat → Entries → Reader Entries
  | 0, _, _ => none
  | fuel + 1, entries, cs =>
    match skipBlank cs with
    | '\x7d' :: rest => some (entries, rest)
    | cs => do
      let ((k, v), rest) ← keyAndValue skipBlank item cs
      let entries ← addEntry k v entries
      match skipBlank rest with
      | ',' :: rest => inlineEntries item fuel entries rest
      | '\x7d' :: rest => some (entries, rest)
      | _ => none

/-- A value without brackets. -/
def plainValue : Reader Toml := fun cs =>
  match cs with
  | '"' :: _ | '\'' :: _ => do
    let (s, rest) ← string cs
    some (.text s, rest)
  | cs => scalar cs

/-- A value, with a number of brackets that may still be opened. -/
def value : Nat → Reader Toml
  | 0, cs => plainValue cs
  | room + 1, cs =>
    match cs with
    | '[' :: rest => do
      let (items, rest) ← arrayItems (value room) (rest.length + 1) rest
      some (.array items, rest)
    | '\x7b' :: rest => do
      let (entries, rest) ← inlineEntries (value room) (rest.length + 1) [] rest
      some (.table (finishedEntries entries), rest)
    | cs => plainValue cs

/-! ### Lines -/

/-- A file as far as it was read: its entries, and the table that entries are added to. -/
structure Draft where
  entries : Entries
  current : List String

/-- The key of a header, up to its closing mark. -/
def headerKey (cs : List Char) : Option (List String × List Char) := key (skipSpaces cs)

/-- A header or an entry. -/
def statement (d : Draft) : List Char → Option (Draft × List Char)
  | '[' :: '[' :: rest => do
    let (k, rest) ← headerKey rest
    let rest ← mark ']' rest
    let rest ← mark ']' rest
    let entries ← openSeries k d.entries
    some (⟨entries, k⟩, rest)
  | '[' :: rest => do
    let (k, rest) ← headerKey rest
    let rest ← mark ']' rest
    let entries ← openTable k d.entries
    some (⟨entries, k⟩, rest)
  | cs => do
    let ((k, v), rest) ← keyAndValue skipSpaces (value depthLimit) cs
    let entries ← within false (addEntry k v) d.current d.entries
    some ({ d with entries := entries }, rest)

/-- What follows the end of a line, after spaces and a comment. -/
def lineEnd (cs : List Char) : Option (List Char) :=
  match skipComment (skipSpaces cs) with
  | [] => some []
  | cs => newline? cs

/-- The lines of a file. Every line takes at least one character, so the length of the text is
enough fuel. -/
def lines : Nat → Draft → List Char → Option Draft
  | 0, d, cs => if cs.isEmpty then some d else none
  | fuel + 1, d, cs =>
    match skipBlank cs with
    | [] => some d
    | cs => do
      let (d, rest) ← statement d cs
      let rest ← lineEnd rest
      lines fuel d rest

/-- The entries of a settings file, if it is one. A mark of the byte order at its beginning has no
meaning. -/
def read? (s : String) : Option (List (String × Toml)) := do
  let cs := match s.toList with
    | '\uFEFF' :: rest => rest
    | cs => cs
  let d ← lines (cs.length + 1) ⟨[], []⟩ cs
  some (finishedEntries d.entries)

end CameraFeed.Toml
