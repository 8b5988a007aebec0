import CameraFeed.Push.Transport

/-! # CommandLine — the options of the program

  An option has a long name. Those that take a value take it after an equals sign or as the next
  word, unless that word looks like an option; some may be given again and again, others once. The
  words are taken in their order, and the first thing that is wrong ends the reading. The value
  after an equals sign is looked at at once, one that is a word of its own only when the next option
  comes, or the end. -/

namespace CameraFeed.CommandLine

open Push (Transport)

/-- The options. -/
structure Options where
  /-- A shared filter, as a query. -/
  filter : Option String
  devices : List String
  codes : List String
  actions : List String
  /-- Rows show their payload at first. -/
  expanded : Bool
  /-- How the server is talked to, if it was said. -/
  transport : Option Transport
  /-- The screen is not cleared. -/
  noClear : Bool
  deriving DecidableEq, Repr

namespace Options

/-- Nothing was said. -/
def none : Options := ⟨.none, [], [], [], false, .none, false⟩

/-- The filter at first: the shared one and the single values. -/
def initialFilter (o : Options) : Filter :=
  ((o.filter.map Filter.ofQuery).getD .empty).merge (.ofTyped o.devices o.codes o.actions)

/-- How the server is talked to. -/
def chosenTransport (o : Options) : Transport := o.transport.getD .eventStream

end Options

/-- Why the words cannot be taken. -/
inductive Fault where
  /-- There is no such option. -/
  | unknown
  /-- A value is missing, or has no meaning. -/
  | invalidValue
  /-- An option is there twice that can be there once. -/
  | conflict
  /-- A value is given to an option that takes none. -/
  | tooManyValues
  /-- Help was asked for. -/
  | help
  /-- The version was asked for. -/
  | version
  deriving DecidableEq, Repr

namespace Fault

/-- The arguments ask for the help or the version, which is no error. -/
def isRequest : Fault → Bool
  | help | version => true
  | _ => false

/-- What the program prints instead of running. -/
def message : Fault → String
  | unknown => "error: unexpected argument"
  | invalidValue => "error: a value is missing or invalid"
  | conflict => "error: an option is given twice"
  | tooManyValues => "error: an option takes no value"
  | help =>
    "Options: --filter QUERY, --device-uuid UUID, --code CODE, --action ACTION, --expanded, "
      ++ "--transport sse|websocket, --no-clear, --help, --version"
  | version => "0.1.0"

end Fault

/-! ### Options by name -/

/-- The options that take a value. -/
inductive Valued where
  | filter
  | device
  | code
  | action
  | transport
  deriving DecidableEq, Repr

/-- The options that take none. -/
inductive Flag where
  | expanded
  | noClear
  | help
  | version
  deriving DecidableEq, Repr

/-- An option. -/
inductive Name where
  | valued (v : Valued)
  | flag (f : Flag)
  deriving DecidableEq, Repr

/-- The options by their long names. -/
def longNames : List (String × Name) := [
  ("filter", .valued .filter), ("device-uuid", .valued .device), ("code", .valued .code),
  ("action", .valued .action), ("transport", .valued .transport),
  ("expanded", .flag .expanded), ("no-clear", .flag .noClear),
  ("help", .flag .help), ("version", .flag .version)]

/-! ### Reading -/

/-- What the words before came to. -/
structure State where
  options : Options
  /-- An option that was named, and its value if it was given. -/
  pending : Option (Valued × Option String)

/-- Gives an option its value. -/
def give (o : Options) (name : Valued) (value : String) : Except Fault Options :=
  match name with
  | .filter => if o.filter.isSome then .error .conflict else .ok { o with filter := some value }
  | .device => .ok { o with devices := o.devices ++ [value] }
  | .code => .ok { o with codes := o.codes ++ [value] }
  | .action => .ok { o with actions := o.actions ++ [value] }
  | .transport =>
    match o.transport, Transport.ofName? value with
    | some _, _ => .error .conflict
    | none, some t => .ok { o with transport := some t }
    | none, none => .error .invalidValue

/-- The options once the pending one is settled. -/
def settled (s : State) : Except Fault Options :=
  match s.pending with
  | none => .ok s.options
  | some (_, none) => .error .invalidValue
  | some (name, some value) => give s.options name value

/-- Takes an option without a value. -/
def takeFlag (o : Options) : Flag → Except Fault Options
  | .expanded => if o.expanded then .error .conflict else .ok { o with expanded := true }
  | .noClear => if o.noClear then .error .conflict else .ok { o with noClear := true }
  | .help => .error .help
  | .version => .error .version

/-- Takes an option by its long name, and the value after its equals sign if there is one. -/
def takeLong (s : State) (name : String) (value : Option String) : Except Fault State :=
  match longNames.lookup name with
  | none => .error .unknown
  | some (.valued v) => do
    let options ← settled s
    match value with
    | none => .ok ⟨options, some (v, none)⟩
    | some value =>
      let options ← give options v value
      .ok ⟨options, none⟩
  | some (.flag f) =>
    match value with
    -- The value is refused before a fault of the option before it is found.
    | some _ => .error .tooManyValues
    | none => do
      let options ← settled s
      let options ← takeFlag options f
      .ok ⟨options, none⟩

/-- Takes an option by its letter. -/
def takeLetter (s : State) (c : Char) : Except Fault State :=
  let flag (f : Flag) : Except Fault State := do
    let options ← settled s
    let options ← takeFlag options f
    .ok ⟨options, none⟩
  if c = 'h' then flag .help
  else if c = 'V' then flag .version
  else .error .unknown

/-- Takes a word that is no option. It is a value if an option waits for one. -/
def takePlain (s : State) (word : String) : Except Fault State :=
  match s.pending with
  | some (name, none) => .ok { s with pending := some (name, some word) }
  | _ => .error .unknown

/-- A long option and the value after its equals sign. -/
def cutEquals (cs : List Char) : String × Option String :=
  match cs.span (· != '=') with
  | (name, []) => (String.ofList name, none)
  | (name, _ :: value) => (String.ofList name, some (String.ofList value))

/-- Takes words one after another. After two dashes alone no word is an option any more. -/
def takeWords : State → List String → Except Fault State
  | s, [] => .ok s
  | s, word :: rest => do
    match word.toList with
    | ['-', '-'] => if rest.isEmpty then .ok s else .error .unknown
    | '-' :: '-' :: cs =>
      let (name, value) := cutEquals cs
      let s ← takeLong s name value
      takeWords s rest
    | '-' :: c :: _ =>
      let s ← takeLetter s c
      takeWords s rest
    | _ =>
      let s ← takePlain s word
      takeWords s rest

/-- The options of words. The filter of the environment counts when no other one was given. -/
def read (words : List String) (environmentFilter : Option String) : Except Fault Options := do
  let s ← takeWords ⟨.none, none⟩ words
  let o ← settled s
  .ok { o with filter := o.filter.or environmentFilter }

end CameraFeed.CommandLine
