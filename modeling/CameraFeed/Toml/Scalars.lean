import CameraFeed.Json.Basic
import CameraFeed.Time.Calendar
import CameraFeed.Toml.Basic
import CameraFeed.Toml.Strings

/-! # Scalars — numbers, truth values, dates and times of a settings file

  A whole number fits a signed word of 64 bits, in base 10 or, with a mark in front, in base 16, 8
  or 2. Digits may be grouped by underscores. A date or a time is given back in one form. -/

namespace CameraFeed.Toml

/-! ### Digits -/

/-- The digits of a run in which underscores stand between digits only. -/
def ungrouped? (isDigit : Char → Bool) (cs : List Char) : Option (List Char) :=
  let groups := Text.pieces (· == '_') cs
  if groups.all fun g => !g.isEmpty && g.all isDigit then some groups.flatten else none

/-- The number of digits without a sign in a base. -/
def based? (base : Nat) (cs : List Char) : Option Nat := do
  let value? (c : Char) := (Json.hexValue? c).filter (· < base)
  let cs ← ungrouped? (fun c => (value? c).isSome) cs
  let ds ← cs.mapM value?
  some (ds.foldl (fun n d => base * n + d) 0)

/-- A whole number, if it fits. -/
def integer? (n : Int) : Option Toml := if Json.fitsSigned n then some (.integer n) else none

/-- The digits before a point: no zero in front of other digits. -/
def leading? (cs : List Char) : Option (List Char) := do
  let ds ← ungrouped? Decimal.isDigit cs
  if ds.head? = some '0' ∧ 1 < ds.length then none else some ds

/-- The exponent behind `e`: an optional sign and digits. -/
def exponent? (cs : List Char) : Option Int :=
  match cs with
  | '-' :: cs => (ungrouped? Decimal.isDigit cs).map fun ds => -(Decimal.value ds : Int)
  | '+' :: cs => (ungrouped? Decimal.isDigit cs).map fun ds => Decimal.value ds
  | cs => (ungrouped? Decimal.isDigit cs).map fun ds => Decimal.value ds

/-- A text cut at the first character that satisfies `p`, which is dropped. -/
def cutAt (p : Char → Bool) (cs : List Char) : List Char × Option (List Char) :=
  match cs.span fun c => !p c with
  | (before, []) => (before, none)
  | (before, _ :: after) => (before, some after)

/-- A number in base 10 after its sign. -/
def decimal? (negative : Bool) (cs : List Char) : Option Toml :=
  let (mantissa, exponent) := cutAt (fun c => c == 'e' || c == 'E') cs
  let (before, after) := cutAt (· == '.') mantissa
  match exponent, after with
  | none, none => do
    let ds ← leading? before
    integer? (if negative then -(Decimal.value ds : Int) else Decimal.value ds)
  | _, _ => do
    let ds ← leading? before
    let fs ← match after with
      | none => some []
      | some fs => ungrouped? Decimal.isDigit fs
    let e ← match exponent with
      | none => some 0
      | some e => exponent? e
    let x ← Binary64.ofDecimal negative (Decimal.value (ds ++ fs)) (e - fs.length)
    some (.float (.finite x))

/-- A number after its sign. -/
def signed? (negative : Bool) (cs : List Char) : Option Toml :=
  match String.ofList cs with
  | "inf" => some (.float (.infinite negative))
  | "nan" => some (.float .notANumber)
  | _ => decimal? negative cs

/-- A number or a truth value. -/
def word? (cs : List Char) : Option Toml :=
  match cs with
  | '+' :: rest => signed? false rest
  | '-' :: rest => signed? true rest
  | '0' :: 'x' :: rest => do integer? (← based? 16 rest)
  | '0' :: 'o' :: rest => do integer? (← based? 8 rest)
  | '0' :: 'b' :: rest => do integer? (← based? 2 rest)
  | cs =>
    match String.ofList cs with
    | "true" => some (.boolean true)
    | "false" => some (.boolean false)
    | _ => signed? false cs

/-! ### Dates and times -/

/-- A number of digits. -/
def digits (count : Nat) : Reader Nat := fun cs =>
  let ds := cs.take count
  if ds.length = count ∧ ds.all Decimal.isDigit then some (Decimal.value ds, cs.drop count)
  else none

/-- Two digits within bounds. -/
def pair (least most : Nat) : Reader Nat := fun cs => do
  let (n, rest) ← digits 2 cs
  if least ≤ n ∧ n ≤ most then some (n, rest) else none

/-- The character that has to come next. -/
def mark (c : Char) : List Char → Option (List Char)
  | [] => none
  | d :: rest => if d = c then some rest else none

/-- A date. -/
def date : Reader (List Char) := fun cs => do
  let (year, cs) ← digits 4 cs
  let cs ← mark '-' cs
  let (month, cs) ← pair 1 12 cs
  let cs ← mark '-' cs
  let (day, cs) ← pair 1 31 cs
  if (Time.Date.mk year month day).isValid then
    let monthDay := Decimal.padded 2 month ++ '-' :: Decimal.padded 2 day
    some (Decimal.padded 4 year ++ '-' :: monthDay, cs)
  else none

/-- The digits of a fraction of a second, nine of them at most and no zeros at the end but one. -/
def fraction (ds : List Char) : List Char :=
  let kept := ((ds.take 9).reverse.dropWhile (· == '0')).reverse
  '.' :: (if kept.isEmpty then ['0'] else kept)

/-- The seconds of a time and their fraction, if they are there. -/
def secondsPart : Reader (List Char)
  | ':' :: cs => do
    let (second, cs) ← pair 0 60 cs
    match cs with
    | '.' :: cs =>
      let ds := cs.takeWhile Decimal.isDigit
      if ds.isEmpty then none
      else some (':' :: (Decimal.padded 2 second ++ fraction ds), cs.drop ds.length)
    | cs => some (':' :: Decimal.padded 2 second, cs)
  | cs => some ([], cs)

/-- A time of day. -/
def timeOfDay : Reader (List Char) := fun cs => do
  let (hour, cs) ← pair 0 23 cs
  let cs ← mark ':' cs
  let (minute, cs) ← pair 0 59 cs
  let (seconds, cs) ← secondsPart cs
  some (Decimal.padded 2 hour ++ ':' :: (Decimal.padded 2 minute ++ seconds), cs)

/-- An offset from Greenwich, if there is one. -/
def offset : Reader (List Char)
  | 'Z' :: cs => some (['Z'], cs)
  | 'z' :: cs => some (['Z'], cs)
  | c :: cs =>
    if c = '+' ∨ c = '-' then do
      let (hours, cs) ← pair 0 23 cs
      let cs ← mark ':' cs
      let (minutes, cs) ← pair 0 59 cs
      let sign := if hours = 0 ∧ minutes = 0 then '+' else c
      some (sign :: (Decimal.padded 2 hours ++ ':' :: Decimal.padded 2 minutes), cs)
    else some ([], c :: cs)
  | [] => some ([], [])

/-- The text after a date is a time: a letter comes between them, or a space. -/
def timeFollows? : List Char → Option (List Char)
  | 'T' :: cs => some cs
  | 't' :: cs => some cs
  | ' ' :: c :: cs => if Decimal.isDigit c then some (c :: cs) else none
  | _ => none

/-- A date, with or without a time. -/
def dated : Reader Toml := fun cs => do
  let (day, cs) ← date cs
  match timeFollows? cs with
  | none => some (.moment (String.ofList day), cs)
  | some cs => do
    let (time, cs) ← timeOfDay cs
    let (place, cs) ← offset cs
    some (.moment (String.ofList (day ++ 'T' :: (time ++ place))), cs)

/-- The text starts with a number of digits and then a mark. -/
def startsLike (count : Nat) (c : Char) (cs : List Char) : Bool :=
  (cs.take count).all Decimal.isDigit && cs[count]? == some c

/-- The character may be in a number or a word. -/
def isWordChar (c : Char) : Bool := c.isAlphanum || c == '_' || c == '+' || c == '-' || c == '.'

/-- A value that is neither a string nor in brackets. -/
def scalar : Reader Toml := fun cs =>
  if startsLike 4 '-' cs then dated cs
  else if startsLike 2 ':' cs then do
    let (time, cs) ← timeOfDay cs
    some (.moment (String.ofList time), cs)
  else do
    let word := cs.takeWhile isWordChar
    let v ← word? word
    some (v, cs.drop word.length)

end CameraFeed.Toml
