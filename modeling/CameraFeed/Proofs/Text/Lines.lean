import CameraFeed.Text.Blank

/-! # Lines — cutting a text into lines and joining them

  Cutting at a character and joining with it undo each other, as long as the character is not in
  the parts. The lines of a text are its parts between line feeds when there are no carriage
  returns and no line is empty. -/

namespace CameraFeed.Text

/-! ### Pieces -/

section pieces
variable {α : Type} {p : α → Bool} {as : List α}

/-- A separator starts with an empty piece. -/
theorem pieces_cons_of_pos {a : α} (ha : p a = true) (as : List α) :
    pieces p (a :: as) = [] :: pieces p as := by
  rw [pieces, if_pos ha]

/-- An element that is no separator belongs to the first piece. -/
theorem pieces_cons_of_neg {a : α} (ha : p a = false) (as : List α) :
    ∃ w ws, pieces p as = w :: ws ∧ pieces p (a :: as) = (a :: w) :: ws := by
  obtain ⟨w, ws, hws⟩ := List.exists_cons_of_ne_nil (pieces_ne_nil p as)
  refine ⟨w, ws, hws, ?_⟩
  rw [pieces, if_neg (by simp [ha]), hws]

/-- A separator parts the pieces before it from those after it. -/
theorem pieces_append {a : α} (ha : p a = true) (as bs : List α) :
    pieces p (as ++ a :: bs) = pieces p as ++ pieces p bs := by
  induction as with
  | nil => exact pieces_cons_of_pos ha bs
  | cons b as ih =>
    rw [List.cons_append]
    cases hb : p b with
    | true => rw [pieces_cons_of_pos hb, pieces_cons_of_pos hb, ih, List.cons_append]
    | false =>
      obtain ⟨w, ws, hws, heq⟩ := pieces_cons_of_neg hb as
      obtain ⟨w', ws', hws', heq'⟩ := pieces_cons_of_neg hb (as ++ a :: bs)
      rw [ih, hws, List.cons_append] at hws'
      obtain ⟨rfl, rfl⟩ := List.cons.inj hws'
      rw [heq', heq, List.cons_append]

/-- The first piece is what the list begins with. -/
theorem exists_pieces_eq_cons (p : α → Bool) (as : List α) :
    ∃ first rest, pieces p as = first :: rest ∧ first <+: as := by
  induction as with
  | nil => exact ⟨[], [], rfl, List.nil_prefix⟩
  | cons a as ih =>
    cases ha : p a with
    | true => exact ⟨[], _, pieces_cons_of_pos ha as, List.nil_prefix⟩
    | false =>
      obtain ⟨first, rest, hpieces, hfirst⟩ := ih
      obtain ⟨w, ws, hws, heq⟩ := pieces_cons_of_neg ha as
      obtain ⟨rfl, rfl⟩ := List.cons.inj (hws.symm.trans hpieces)
      exact ⟨_, _, heq, List.cons_prefix_cons.mpr ⟨rfl, hfirst⟩⟩

/-- An element of a piece is one of the list and no separator. -/
theorem mem_of_mem_pieces {piece : List α} (h : piece ∈ pieces p as) :
    ∀ a ∈ piece, a ∈ as ∧ p a = false := by
  induction as generalizing piece with
  | nil =>
    rw [pieces, List.mem_singleton] at h
    simp [h]
  | cons b bs ih =>
    intro a ha
    cases hb : p b with
    | true =>
      rw [pieces_cons_of_pos hb, List.mem_cons] at h
      rcases h with rfl | h
      · cases ha
      · exact ⟨List.mem_cons_of_mem _ (ih h a ha).1, (ih h a ha).2⟩
    | false =>
      obtain ⟨w, ws, hws, heq⟩ := pieces_cons_of_neg hb bs
      rw [heq, List.mem_cons] at h
      rcases h with rfl | h
      · rcases List.mem_cons.mp ha with rfl | ha
        · exact ⟨List.mem_cons_self, hb⟩
        · have := ih (hws ▸ List.mem_cons_self) a ha
          exact ⟨List.mem_cons_of_mem _ this.1, this.2⟩
      · have := ih (hws ▸ List.mem_cons_of_mem _ h) a ha
        exact ⟨List.mem_cons_of_mem _ this.1, this.2⟩

/-- The last piece is not empty when the list does not end with a separator. -/
theorem ne_nil_of_getLast?_pieces {a : α} (ha : p a = false) (as : List α) :
    ∀ last ∈ (pieces p (as ++ [a])).getLast?, last ≠ [] := by
  induction as with
  | nil => simp [pieces, ha]
  | cons b as ih =>
    intro last hlast
    rw [List.cons_append] at hlast
    cases hb : p b with
    | true =>
      rw [pieces_cons_of_pos hb, List.getLast?_cons] at hlast
      obtain ⟨w, ws, hws⟩ := List.exists_cons_of_ne_nil (pieces_ne_nil p (as ++ [a]))
      rw [hws] at hlast ih
      exact ih last (by simpa [List.getLast?_cons] using hlast)
    | false =>
      obtain ⟨w, ws, hws, heq⟩ := pieces_cons_of_neg hb (as ++ [a])
      rw [heq] at hlast
      rw [hws] at ih
      cases ws with
      | nil =>
        cases hlast
        exact List.cons_ne_nil _ _
      | cons w' ws => exact ih last (by rwa [List.getLast?_cons_cons] at hlast ⊢)

end pieces

/-! ### Joining -/

theorem joinWith_cons_cons (separator line next : List Char) (rest : List (List Char)) :
    joinWith separator (line :: next :: rest)
      = line ++ separator ++ joinWith separator (next :: rest) := rfl

/-- An element of a part is one of the joined text. -/
theorem mem_joinWith {separator part : List Char} {parts : List (List Char)} (h : part ∈ parts)
    {c : Char} (hc : c ∈ part) : c ∈ joinWith separator parts := by
  induction parts with
  | nil => cases h
  | cons first parts ih =>
    cases parts with
    | nil =>
      rw [List.mem_singleton] at h
      exact h ▸ hc
    | cons next rest =>
      rw [joinWith_cons_cons]
      rcases List.mem_cons.mp h with rfl | h
      · simp [hc]
      · simp [ih h]

/-- An element of a joined text is one of a part or of the separator. -/
theorem of_mem_joinWith {separator : List Char} {parts : List (List Char)} {c : Char}
    (h : c ∈ joinWith separator parts) : c ∈ separator ∨ ∃ part ∈ parts, c ∈ part := by
  induction parts with
  | nil => cases h
  | cons part parts ih =>
    cases parts with
    | nil => exact .inr ⟨part, List.mem_cons_self, h⟩
    | cons next rest =>
      rw [joinWith_cons_cons, List.mem_append, List.mem_append] at h
      rcases h with (h | h) | h
      · exact .inr ⟨part, List.mem_cons_self, h⟩
      · exact .inl h
      · rcases ih h with h | ⟨p, hp, hc⟩
        · exact .inl h
        · exact .inr ⟨p, List.mem_cons_of_mem _ hp, hc⟩

/-- A text behind joined parts is behind the last of them. -/
theorem joinWith_append (separator : List Char) (parts : List (List Char)) (last s : List Char) :
    joinWith separator (parts ++ [last]) ++ s = joinWith separator (parts ++ [last ++ s]) := by
  induction parts with
  | nil => rfl
  | cons part parts ih =>
    cases parts with
    | nil => simp [joinWith]
    | cons next parts =>
      simp only [List.cons_append, joinWith_cons_cons] at ih ⊢
      rw [List.append_assoc, ih]

/-- Texts put together are joined characters. -/
theorem toList_intercalate (separator : String) (texts : List String) :
    (String.intercalate separator texts).toList
      = joinWith separator.toList (texts.map String.toList) := by
  induction texts with
  | nil => rfl
  | cons text texts ih =>
    cases texts with
    | nil =>
      rw [String.intercalate_singleton]
      rfl
    | cons next rest =>
      rw [String.intercalate_cons_cons, String.toList_append, String.toList_append, ih]
      rfl

/-- A text is its pieces with the separators between them. -/
theorem joinWith_pieces (c : Char) (cs : List Char) :
    joinWith [c] (pieces (· == c) cs) = cs := by
  induction cs with
  | nil => rfl
  | cons d ds ih =>
    by_cases hd : d = c
    · obtain ⟨w, ws, hws⟩ := List.exists_cons_of_ne_nil (pieces_ne_nil (· == c) ds)
      rw [pieces_cons_of_pos (by simp [hd]), hws, joinWith_cons_cons, ← hws, ih, hd]
      rfl
    · have hdc : (d == c) = false := by simp [hd]
      obtain ⟨w, ws, hws, heq⟩ := pieces_cons_of_neg (p := (· == c)) hdc ds
      rw [hws] at ih
      rw [heq]
      cases ws with
      | nil => exact congrArg (d :: ·) ih
      | cons w' ws => exact congrArg (d :: ·) ih

/-- Parts without the separator are the pieces of the joined text. -/
theorem pieces_joinWith {c : Char} {parts : List (List Char)} (hc : ∀ part ∈ parts, c ∉ part)
    (hne : parts ≠ []) : pieces (· == c) (joinWith [c] parts) = parts := by
  induction parts with
  | nil => exact absurd rfl hne
  | cons part parts ih =>
    have hpart : ∀ d ∈ part, (d == c) = false := by
      intro d hd
      have hdc : d ≠ c := fun h => hc part List.mem_cons_self (h ▸ hd)
      simp [hdc]
    cases parts with
    | nil => exact pieces_eq_singleton hpart
    | cons next rest =>
      have hrest := ih (fun q hq => hc q (List.mem_cons_of_mem _ hq)) (List.cons_ne_nil _ _)
      rw [joinWith_cons_cons, List.append_assoc, List.singleton_append,
        pieces_append_separator hpart (by simp), hrest]

/-! ### Lines -/

/-- Lines stay as they are when none has a carriage return and the last one is not empty. -/
theorem linesOf_eq_of_getLast? {parts : List (List Char)} (hreturn : ∀ part ∈ parts, '\r' ∉ part)
    (hlast : ∀ last ∈ parts.getLast?, last ≠ []) : linesOf parts = parts := by
  induction parts with
  | nil => rfl
  | cons part parts ih =>
    cases parts with
    | nil => simp [linesOf, hlast part rfl]
    | cons next rest =>
      have hpart : part.getLast? ≠ some '\r' := fun h =>
        hreturn part List.mem_cons_self (List.mem_of_getLast? h)
      have hrest := ih (fun q hq => hreturn q (List.mem_cons_of_mem _ hq))
        fun q hq => hlast q (by rwa [List.getLast?_cons_cons])
      rw [linesOf, hrest, dropReturn, if_neg hpart]
      exact List.cons_ne_nil _ _

/-- Lines stay as they are when none is empty and none has a carriage return. -/
theorem linesOf_eq {parts : List (List Char)} (hreturn : ∀ part ∈ parts, '\r' ∉ part)
    (hne : ∀ part ∈ parts, part ≠ []) : linesOf parts = parts :=
  linesOf_eq_of_getLast? hreturn fun last hlast => hne last (List.mem_of_getLast? hlast)

/-- The lines of a text are the parts that were joined to it. -/
theorem lines_joinWith {parts : List (List Char)} (hfeed : ∀ part ∈ parts, '\n' ∉ part)
    (hreturn : ∀ part ∈ parts, '\r' ∉ part) (hne : ∀ part ∈ parts, part ≠ [])
    (hparts : parts ≠ []) : lines (joinWith ['\n'] parts) = parts := by
  rw [lines, pieces_joinWith hfeed hparts, linesOf_eq hreturn hne]

/-- A line is a part, with or without its carriage return. -/
theorem exists_part_of_mem_linesOf {parts : List (List Char)} {line : List Char}
    (h : line ∈ linesOf parts) : ∃ part ∈ parts, line <+: part := by
  induction parts with
  | nil => cases h
  | cons part parts ih =>
    cases parts with
    | nil =>
      unfold linesOf at h
      split at h
      · cases h
      · exact ⟨part, List.mem_cons_self, List.mem_singleton.mp h ▸ List.prefix_rfl⟩
    | cons next rest =>
      rw [linesOf] at h
      · rcases List.mem_cons.mp h with rfl | h
        · refine ⟨part, List.mem_cons_self, ?_⟩
          unfold dropReturn
          split
          · exact List.dropLast_prefix part
          · exact List.prefix_rfl
        · obtain ⟨p, hp, hstart⟩ := ih h
          exact ⟨p, List.mem_cons_of_mem _ hp, hstart⟩
      · exact nofun

/-- Lines have no line feeds. -/
theorem feed_notMem_lines {cs line : List Char} (h : line ∈ lines cs) : '\n' ∉ line := by
  intro hfeed
  obtain ⟨part, hpart, hstart⟩ := exists_part_of_mem_linesOf h
  exact absurd (mem_of_mem_pieces hpart _ (hstart.subset hfeed)).2 (by decide)

/-- A line feed in front is an empty line more. -/
theorem lines_feed_cons (cs : List Char) : lines ('\n' :: cs) = [] :: lines cs := by
  rw [lines, pieces_cons_of_pos (by decide), linesOf]
  · rfl
  · exact pieces_ne_nil _ _

/-! ### Lines with their line ends -/

/-- Lines, each with its line end. -/
def ended (lines : List (List Char)) : List Char := lines.flatMap (· ++ ['\n'])

/-- A text behind lines with their line ends begins a new line. -/
theorem pieces_ended_append {lines : List (List Char)} (h : ∀ line ∈ lines, '\n' ∉ line)
    (rest : List Char) :
    pieces (· == '\n') (ended lines ++ rest) = lines ++ pieces (· == '\n') rest := by
  induction lines with
  | nil => rfl
  | cons line lines ih =>
    have hline : ∀ c ∈ line, (c == '\n') = false := by
      intro c hc
      rw [beq_eq_false_iff_ne]
      intro heq
      exact h line List.mem_cons_self (heq ▸ hc)
    have hsplit : ended (line :: lines) ++ rest = line ++ '\n' :: (ended lines ++ rest) := by
      simp [ended]
    rw [hsplit, pieces_append_separator hline rfl, ih fun l hl => h l (List.mem_cons_of_mem _ hl)]
    rfl

/-- Lines are read back from their text exactly if no line has a line feed in it. -/
theorem pieces_ended_iff (lines : List (List Char)) :
    pieces (· == '\n') (ended lines) = lines ++ [[]] ↔ ∀ line ∈ lines, '\n' ∉ line := by
  constructor
  · intro h line hline hfeed
    have hpiece : line ∈ pieces (· == '\n') (ended lines) := h ▸ List.mem_append_left _ hline
    exact absurd (mem_of_mem_pieces hpiece _ hfeed).2 (by decide)
  · intro h
    have hpieces := pieces_ended_append h []
    rwa [List.append_nil] at hpieces

end CameraFeed.Text
