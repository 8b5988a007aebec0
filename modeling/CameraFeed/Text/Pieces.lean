/-! # Pieces — cutting a list at separators

  `pieces p` cuts a list at every element that satisfies `p`. The separators are dropped and every
  stretch between two of them is kept, the empty ones too, so a list with `n` separators has
  `n + 1` pieces. Lines, words and the pairs of a query string are all read off from it. -/

namespace CameraFeed.Text

variable {α : Type}

/-- The stretches of a list between the elements that satisfy `p`. -/
def pieces (p : α → Bool) : List α → List (List α)
  | [] => [[]]
  | a :: as =>
    if p a then [] :: pieces p as
    else match pieces p as with
      | [] => [[a]]
      | w :: ws => (a :: w) :: ws

/-- There is always a first piece. -/
theorem pieces_ne_nil (p : α → Bool) (as : List α) : pieces p as ≠ [] := by
  cases as with
  | nil => simp [pieces]
  | cons a as =>
    unfold pieces
    split
    · simp
    · split <;> simp

/-- A stretch without separators is one piece. -/
theorem pieces_eq_singleton {p : α → Bool} {as : List α} (h : ∀ a ∈ as, p a = false) :
    pieces p as = [as] := by
  induction as with
  | nil => rfl
  | cons a as ih =>
    have ha : p a = false := h a (by simp)
    have ih' := ih fun b hb => h b (by simp [hb])
    simp [pieces, ha, ih']

/-- A separator ends the piece before it and starts the next one. -/
theorem pieces_append_separator {p : α → Bool} {as : List α} (h : ∀ a ∈ as, p a = false)
    {b : α} (hb : p b = true) (bs : List α) :
    pieces p (as ++ b :: bs) = as :: pieces p bs := by
  induction as with
  | nil => simp [pieces, hb]
  | cons a as ih =>
    have ha : p a = false := h a (by simp)
    have ih' := ih fun c hc => h c (by simp [hc])
    simp [pieces, ha, ih']

end CameraFeed.Text
