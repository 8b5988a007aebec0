/-! # Screen — the output of the console

  A screen collects texts and shows them when it is flushed. From its `Breakage` on, each output
  fails with the same reason. -/

namespace CameraFeed.Console

/-- An output to a screen. -/
inductive Output where
  | write (text : String)
  /-- Shows what was written since the last flush. -/
  | flush
  deriving DecidableEq, Repr

/-- When and why a screen breaks. -/
structure Breakage where
  /-- The number of outputs before the first one that fails. -/
  after : Nat
  reason : String
  deriving DecidableEq, Repr

/-- A screen with the outputs that it took. -/
structure Screen where
  /-- The outputs it took, the last one first. -/
  taken : List Output
  /-- When it breaks, if it does. -/
  breakage : Option Breakage
  deriving DecidableEq, Repr

namespace Screen

/-- A screen that never breaks. -/
def sound : Screen := ⟨[], none⟩

/-- A screen that is broken from the start. -/
def broken (reason : String) : Screen := ⟨[], some ⟨0, reason⟩⟩

/-- Takes one output, or fails. -/
def put (s : Screen) (o : Output) : Except String Screen :=
  match s.breakage with
  | none => .ok { s with taken := o :: s.taken }
  | some ⟨0, reason⟩ => .error reason
  | some ⟨n + 1, reason⟩ => .ok ⟨o :: s.taken, some ⟨n, reason⟩⟩

/-- Takes outputs up to the first one that fails. -/
def putAll (s : Screen) : List Output → Screen × Except String Unit
  | [] => (s, .ok ())
  | o :: rest =>
    match s.put o with
    | .ok s => s.putAll rest
    | .error reason => (s, .error reason)

/-! ### What was shown -/

/-- The concatenation of all texts that were written. -/
def text (s : Screen) : String :=
  String.join (s.taken.reverse.filterMap fun
    | .write text => some text
    | .flush => none)

/-- The concatenation of the texts before each flush. `written` is what precedes the outputs. -/
def framesFrom (written : String) : List Output → List String
  | [] => []
  | .write text :: rest => framesFrom (written ++ text) rest
  | .flush :: rest => written :: framesFrom "" rest

/-- The texts that were shown, one for each flush. -/
def frames (s : Screen) : List String := framesFrom "" s.taken.reverse

/-- The screen without the outputs that it took. -/
def wiped (s : Screen) : Screen := { s with taken := [] }

end Screen

end CameraFeed.Console
