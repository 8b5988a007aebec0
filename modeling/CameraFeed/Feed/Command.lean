import CameraFeed.Decimal.Numeral
import CameraFeed.Filter.Basic

/-! # Command — lines typed while the feed runs

  A line is a list of words: the name of a command and its arguments. White space around the words
  has no meaning. -/

namespace CameraFeed.Feed

/-- A command. -/
inductive Command where
  /-- Shows events of some cameras only. -/
  | devices (uuids : List String)
  /-- Shows events of some codes only. -/
  | codes (codes : List String)
  /-- Shows events of some actions only. -/
  | actions (actions : List String)
  /-- Replaces the filter. -/
  | filter (f : Filter)
  /-- Shows every payload. -/
  | expand
  /-- Hides every payload. -/
  | collapse
  /-- Shows or hides the payload of one row. -/
  | toggle (row : Nat)
  /-- Prints the filter as a query. -/
  | share
  /-- Prints the known codes and actions. -/
  | choices
  | help
  | quit
  deriving DecidableEq

namespace Command

/-- Why a line is no command. -/
inductive Fault where
  /-- There is no word. -/
  | empty
  /-- There is no command of that name. -/
  | unknown (name : String)
  /-- The argument is not the number of a row. -/
  | invalidRow (word : String)
  deriving DecidableEq, Repr

/-- The message of a fault. -/
def Fault.message : Fault → String
  | empty => "empty command"
  | unknown name => "unknown command '" ++ name ++ "', type 'help' for a list of commands"
  | invalidRow word => "'" ++ word ++ "' is not a row number"

/-- What each command does, line by line. -/
def helpText : String :=
  String.intercalate "\n" [
    "devices <uuid...>    only show events of these devices, no arguments clears the filter",
    "codes <code...>      only show events with these codes",
    "actions <action...>  only show events with these actions",
    "filter <query>       replace the whole filter with a shared query string",
    "expand | collapse    show or hide the payload of every row",
    "toggle <row>         show or hide the payload of a single row",
    "share                print the query string of the current filter",
    "choices              list the known event codes and actions",
    "quit"]

/-- The command of a row number, an optional plus sign and digits. -/
def toggleOf (word : String) : Except Fault Command :=
  match Decimal.readPlus? Decimal.wordLimit word.toList with
  | some row => .ok (.toggle row)
  | none => .error (.invalidRow word)

/-- The command of a name and arguments. -/
def ofWords (name : String) (arguments : List String) : Except Fault Command :=
  match name with
  | "devices" => .ok (.devices arguments)
  | "codes" => .ok (.codes arguments)
  | "actions" => .ok (.actions arguments)
  | "filter" => .ok (.filter (.ofQuery (String.intercalate "&" arguments)))
  | "expand" => .ok .expand
  | "collapse" => .ok .collapse
  | "toggle" => toggleOf (arguments.head?.getD "")
  | "share" => .ok .share
  | "choices" => .ok .choices
  | "help" | "?" => .ok .help
  | "quit" | "exit" => .ok .quit
  | name => .error (.unknown name)

/-- The command of a line. -/
def read (line : String) : Except Fault Command :=
  match Text.wordsOf line with
  | [] => .error .empty
  | name :: arguments => ofWords name arguments

end Command

end CameraFeed.Feed
