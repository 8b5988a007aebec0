import CameraFeed.Config.Value
import CameraFeed.Text.Quoted
import CameraFeed.Time.SpanReader

/-! # Reader — settings as typed values

  The readers are lenient: a number may be written as a text or a truth value, and a text as a
  number. A fault carries the key of the setting and, if it is known, its place. -/

namespace CameraFeed.Config

/-! ### Faults -/

/-- Why the settings cannot be used. -/
inductive Fault where
  /-- A setting that has to be there. -/
  | missing (key : String)
  /-- A setting of another kind. -/
  | wrongType (found expected key : String) (origin : Option Origin)
  /-- A setting that cannot be meant. -/
  | refused (reason key : String)
  /-- A file that cannot be found. -/
  | noFile (name : String)
  /-- A file that cannot be read as what it is. -/
  | unreadable
  deriving DecidableEq, Repr

namespace Fault

/-- The message of a fault. The reason why a file is unreadable is not part of it. -/
def message : Fault → String
  | missing key => "missing configuration field " ++ Text.quoted key
  | wrongType found expected key origin =>
    "invalid type: " ++ found ++ ", expected " ++ expected ++ " for key `" ++ key ++ "`"
      ++ (match origin with
        | none => ""
        | some origin => " in " ++ origin.text)
  | refused reason key => reason ++ " for key `" ++ key ++ "`"
  | noFile name => "configuration file " ++ Text.quoted name ++ " not found"
  | unreadable => ""

/-- A key inside another one. -/
def joined (outer inner : String) : String :=
  if inner.isEmpty ∨ inner.startsWith "[" then outer ++ inner else outer ++ "." ++ inner

/-- A fault in a part of a setting, with the key of the whole setting. -/
def within (outer : String) : Fault → Fault
  | missing key => missing (joined outer key)
  | wrongType found expected key origin => wrongType found expected (joined outer key) origin
  | refused reason key => refused reason (joined outer key)
  | fault => fault

end Fault

/-! ### Single settings -/

/-- A scalar as it is shown in the messages about its kind. -/
def Scalar.kindText : Scalar → String
  | boolean b => "boolean `" ++ (if b then "true" else "false") ++ "`"
  | integer n => "64-bit integer `" ++ Decimal.signedText n ++ "`"
  | float x => "floating point `" ++ x.text .plain ++ "`"
  | text s => "string " ++ Text.quoted s

/-- The fault of a setting that is no scalar. -/
def notScalar (expected : String) : Value → Fault
  | .array _ origin => .wrongType "sequence" expected "" origin
  | .table _ origin => .wrongType "map" expected "" origin
  | _ => .wrongType "unit value" expected "" none

/-- A text. -/
def readText : Value → Except Fault String
  | .scalar (.text s) _ => .ok s
  | .scalar (.boolean b) _ => .ok (if b then "true" else "false")
  | .scalar (.integer n) _ => .ok (Decimal.signedText n)
  | .scalar (.float x) _ => .ok (x.text .plain)
  | v => .error (notScalar "a string" v)

/-- The whole number nearest to a floating-point number, away from zero if two are as near. It is
kept within the words of 64 bits. -/
def roundedWord : Toml.Float → Nat
  | .finite x =>
    let (num, den) := x.ratio
    if x.negative then 0 else min ((2 * num + den) / (2 * den)) (Decimal.wordLimit - 1)
  | .infinite negative => if negative then 0 else Decimal.wordLimit - 1
  | .notANumber => 0

/-- The number that a text means, a truth value counting as one or zero. -/
def wordOfText? (s : String) : Option Nat :=
  match String.ofList (s.toList.map Char.toLower) with
  | "true" | "on" | "yes" => some 1
  | "false" | "off" | "no" => some 0
  | _ => Decimal.readPlus? Decimal.wordLimit s.toList

/-- A whole number of a word of 64 bits. -/
def readWord : Value → Except Fault Nat
  | .scalar (.integer n) origin =>
    if n < 0 then
      .error (.wrongType (Scalar.integer n).kindText "an unsigned 64 bit or less integer" ""
        (some origin))
    else .ok n.toNat
  | .scalar (.text s) origin =>
    match wordOfText? s with
    | some n => .ok n
    | none => .error (.wrongType (Scalar.text s).kindText "an integer" "" (some origin))
  | .scalar (.boolean b) _ => .ok (if b then 1 else 0)
  | .scalar (.float x) _ => .ok (roundedWord x)
  | v => .error (notScalar "an integer" v)

/-- A length of time. -/
def readSpan (v : Value) : Except Fault Time.Span := do
  let s ← readText v
  match Time.Span.read? s with
  | some span => .ok span
  | none =>
    .error (.refused ("invalid value: string " ++ Text.quoted s ++ ", expected a duration") "")

/-- A setting that may be left open. -/
def readOptional {α : Type} (read : Value → Except Fault α) : Value → Except Fault (Option α)
  | .nothing => .ok none
  | v => some <$> read v

/-! ### Groups of settings -/

/-- What a scalar is in messages about what stands in the place of a group. -/
def Scalar.foundText : Scalar → String
  | boolean b => "boolean `" ++ (if b then "true" else "false") ++ "`"
  | integer n => "integer `" ++ Decimal.signedText n ++ "`"
  | float x => "floating point `" ++ x.text .pointed ++ "`"
  | text s => "string " ++ Text.quoted s

/-- The fault of what stands in the place of a group. -/
def notGroup (title : String) : Value → Fault
  | .scalar s _ => .refused ("invalid type: " ++ s.foundText ++ ", expected " ++ title) ""
  | _ => .refused ("invalid type: unit value, expected " ++ title) ""

/-- The parts of a group, by name in a table and in their order in an array. -/
inductive Group where
  | named (entries : List (String × Value))
  | listed (items : List Value)

/-- The parts of a setting that is a group. -/
def groupOf (title : String) : Value → Except Fault Group
  | .table entries _ => .ok (.named entries)
  | .array items _ => .ok (.listed items)
  | v => .error (notGroup title v)

/-- A part of a group, if it is there. `index` is its place in an array. -/
def Group.part {α : Type} (g : Group) (index : Nat) (name : String)
    (read : Value → Except Fault α) : Except Fault (Option α) :=
  match g with
  | .named entries =>
    match entries.lookup name with
    | none => .ok none
    | some v => some <$> (read v).mapError (Fault.within name)
  | .listed items =>
    match items[index]? with
    | none => .ok none
    | some v => some <$> (read v).mapError (Fault.within ("[" ++ Decimal.text index ++ "]"))

/-- A part that has to be there. -/
def Group.needed {α : Type} (g : Group) (title : String) (size index : Nat) (name : String) :
    Option α → Except Fault α
  | some a => .ok a
  | none =>
    match g with
    | .named _ => .error (.missing name)
    | .listed _ =>
      .error (.refused ("invalid length " ++ Decimal.text index ++ ", expected " ++ title
        ++ " with " ++ Decimal.text size ++ " elements") "")

end CameraFeed.Config
