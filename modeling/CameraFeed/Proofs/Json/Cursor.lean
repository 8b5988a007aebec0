import CameraFeed.Json.Cursor
import CameraFeed.Proofs.Json.Written
import Mathlib.Data.List.TakeWhile

/-! # Cursor — results of readers

  `Gives x rest post mayFail` is the specification of a reader: its result is a value of which
  `post` holds, with `rest` left to read, or else a failure, and then `mayFail` holds. If `mayFail`
  is false, the reader succeeds. `Passes` is the same for a reader that gives no value and never
  fails. The place of the cursor is left out, since no value depends on it.

  White space is skipped here once for every text that may follow it. -/

namespace CameraFeed.Json

/-! ### Outcomes -/

/-- The result of a reader is a value with `post` and the rest `rest`, or a failure where one is
allowed. -/
def Gives {α : Type} (x : Except Failure (α × Cursor)) (rest : List Char) (post : α → Prop)
    (mayFail : Prop) : Prop :=
  match x with
  | .ok (a, c) => c.rest = rest ∧ post a
  | .error _ => mayFail

namespace Gives

variable {α β : Type} {x : Except Failure (α × Cursor)} {rest rest' : List Char}
  {post post' : α → Prop} {mayFail mayFail' : Prop}

theorem bind {k : α × Cursor → Except Failure (β × Cursor)} {postB : β → Prop}
    (h : Gives x rest post mayFail)
    (hk : ∀ a c, c.rest = rest → post a → Gives (k (a, c)) rest' postB mayFail) :
    Gives (x >>= k) rest' postB mayFail := by
  cases x with
  | error e => exact h
  | ok r => exact hk r.1 r.2 h.1 h.2

theorem imp (h : Gives x rest post mayFail) (hpost : ∀ a, post a → post' a)
    (hfail : mayFail → mayFail') : Gives x rest post' mayFail' := by
  cases x with
  | error e => exact hfail h
  | ok r => exact ⟨h.1, hpost _ h.2⟩

/-- Two things that are known of the same outcome. -/
theorem and (h : Gives x rest post mayFail) (h' : Gives x rest post' mayFail') :
    Gives x rest (fun a => post a ∧ post' a) (mayFail ∧ mayFail') := by
  cases x with
  | error e => exact ⟨h, h'⟩
  | ok r => exact ⟨h.1, h.2, h'.2⟩

/-- A reader that does not fail gives the same where failures are allowed. -/
theorem sure (h : Gives x rest post False) : Gives x rest post mayFail :=
  h.imp (fun _ ha => ha) False.elim

/-- Where nothing may fail, reading succeeds. -/
theorem exists_ok (h : Gives x rest post False) :
    ∃ a c, x = .ok (a, c) ∧ c.rest = rest ∧ post a := by
  cases x with
  | error e => exact h.elim
  | ok r => exact ⟨r.1, r.2, rfl, h.1, h.2⟩

end Gives

/-- Skipping succeeds, with `rest` left to read. -/
def Passes (x : Except Failure Cursor) (rest : List Char) : Prop := ∃ c, x = .ok c ∧ c.rest = rest

namespace Passes

variable {x : Except Failure Cursor} {rest rest' : List Char}

theorem bind {k : Cursor → Except Failure Cursor} (h : Passes x rest)
    (hk : ∀ c, c.rest = rest → Passes (k c) rest') : Passes (x >>= k) rest' := by
  obtain ⟨c, rfl, hc⟩ := h
  exact hk c hc

theorem gives {α : Type} {k : Cursor → Except Failure (α × Cursor)} {post : α → Prop}
    {mayFail : Prop} (h : Passes x rest)
    (hk : ∀ c, c.rest = rest → Gives (k c) rest' post mayFail) :
    Gives (x >>= k) rest' post mayFail := by
  obtain ⟨c, rfl, hc⟩ := h
  exact hk c hc

end Passes

/-! ### White space -/

/-- The text does not begin with white space. -/
def NoSpace (cs : List Char) : Prop := ∀ c ∈ cs.head?, Cursor.isSpace c = false

/-- The texts that may follow a value: none, white space, a comma, or a closing bracket. -/
def Ends (cs : List Char) : Prop :=
  ∀ c ∈ cs.head?, c ∈ [' ', '\n', '\t', '\r', ',', ']', '\x7d']

theorem noSpace_cons {c : Char} {cs : List Char} (h : Cursor.isSpace c = false) :
    NoSpace (c :: cs) := by
  intro d hd
  cases hd
  exact h

theorem ends_cons {c : Char} {cs : List Char}
    (h : c ∈ [' ', '\n', '\t', '\r', ',', ']', '\x7d']) : Ends (c :: cs) := by
  intro d hd
  cases hd
  exact h

/-- After a value and white space there may be whatever may follow a value. -/
theorem ends_append (s : Space) {cs : List Char} (h : Ends cs) : Ends (s.chars ++ cs) := by
  obtain ⟨chars, hspace⟩ := s
  cases chars with
  | nil => exact h
  | cons c cs' =>
    refine ends_cons ?_
    have hc := hspace c List.mem_cons_self
    simp only [List.mem_cons, List.not_mem_nil, or_false] at hc
    rcases hc with rfl | rfl | rfl | rfl <;> decide

theorem isSpace_iff (c : Char) : Cursor.isSpace c = true ↔ c ∈ [' ', '\n', '\t', '\r'] := by
  simp [Cursor.isSpace, or_assoc]

namespace Cursor

variable {c : Cursor} {x : Char} {cs rest : List Char}

theorem peek?_of_rest (h : c.rest = x :: cs) : c.peek? = some x := by
  unfold peek?
  rw [h]
  rfl

theorem rest_eat (h : c.rest = x :: cs) : c.eat.rest = cs := by
  unfold eat
  rw [h]

theorem rest_advance (ds : List Char) (h : c.rest = ds ++ rest) :
    (c.advance ds.length).rest = rest := by
  unfold advance
  rw [h]
  exact List.drop_left

theorem rest_skipSpaces (s : Space) (h : c.rest = s.chars ++ rest) (hrest : NoSpace rest) :
    c.skipSpaces.rest = rest := by
  show c.rest.dropWhile isSpace = rest
  have hspaces : s.chars.dropWhile isSpace = [] := by
    refine List.dropWhile_eq_nil_iff.mpr ?_
    intro d hd
    exact (isSpace_iff d).mpr (s.isSpace d hd)
  rw [h, List.dropWhile_append, hspaces]
  cases rest with
  | nil => rfl
  | cons d rest => simp [hrest d rfl]

/-- Without white space nothing is skipped. -/
theorem rest_skipSpaces_self (h : NoSpace c.rest) : c.skipSpaces.rest = c.rest :=
  rest_skipSpaces .none rfl h

end Cursor

end CameraFeed.Json
