import CameraFeed.Text.Combining
import CameraFeed.Text.Composition

/-! # Normal — one spelling of a text

  A letter with marks can be written as one character or as several, and marks that do not touch
  each other in any order. A text is brought into its normal form in three steps: every character
  is taken apart as far as it goes, the marks after each letter are put in the order of their
  classes, and what has a character of its own is put together again. Characters that are nothing
  but another form of a single one are left as they are. -/

namespace CameraFeed.Text

/-! ### Taking apart -/

/-- The characters that one is made of, taken apart a number of times at most. -/
def decomposed : Nat → Char → List Char
  | 0, c => [c]
  | depth + 1, c =>
    match parts? c with
    | some (a, b) => decomposed depth a ++ [b]
    | none => [c]

/-- The number of times that a character can be taken apart. -/
def decompositionDepth : Nat := 4

/-! ### Ordering -/

/-- Puts a character after others, the last of which comes first here: a mark moves past the marks
of greater classes. -/
def place (c : Char) : List Char → List Char
  | [] => [c]
  | d :: before =>
    if 0 < combiningClass c ∧ combiningClass c < combiningClass d then d :: place c before
    else c :: d :: before

/-- A text with its marks in order. -/
def ordered (cs : List Char) : List Char := (cs.foldl (fun before c => place c before) []).reverse

/-! ### Putting together -/

/-- Puts together what follows a character. Those in `passed`, the last one first, stay on their
own; they keep marks that are not of a greater class than the last of them from the character. -/
def composedAfter (start : Char) (passed : List Char) : List Char → List Char
  | [] => start :: passed.reverse
  | c :: rest =>
    -- Marks that touch each other keep their order, so the later one cannot get to the character.
    let apart := passed.head?.any fun d => combiningClass c ≤ combiningClass d
    match if apart then none else compose? start c with
    | some made => composedAfter made passed rest
    | none =>
      -- A character of class zero starts anew.
      if combiningClass c = 0 then start :: (passed.reverse ++ composedAfter c [] rest)
      else composedAfter start (c :: passed) rest

/-- A text with all put together that has a character of its own. -/
def recomposed : List Char → List Char
  | [] => []
  | c :: rest => composedAfter c [] rest

/-- The normal form of a text. -/
def normal (cs : List Char) : List Char :=
  recomposed (ordered (cs.flatMap (decomposed decompositionDepth)))

end CameraFeed.Text
