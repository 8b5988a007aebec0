import CameraFeed.Proofs.Json.Reading

/-! # Skipping — a written value is passed over

  The brackets that are open are on a stack, so that what is said of a value is said with any stack
  below it. Between two brackets there are parts, items or members, and what skipping does with a
  part is the same in both: it comes to the value in it, passes over the value, and stands before
  the comma or the bracket behind it. -/

namespace CameraFeed.Json

namespace Skip

variable {c : Cursor} {rest : List Char}

/-! ### Reaching a state -/

/-- The rest of the loop after a step. -/
def continued (fuel : Nat) : Option State × Cursor → Except Failure Cursor
  | (none, c) => .ok c
  | (some s, c) => run fuel s c

theorem run_succ (fuel : Nat) (s : State) (c : Cursor) :
    run (fuel + 1) s c = step s c >>= continued fuel := by
  rw [run]
  congr 1

/-- In at most `n` steps skipping comes to what is next, at a cursor with `post`. -/
def Reaches (s : State) (c : Cursor) (n : Nat) (next : Option State) (post : Cursor → Prop) :
    Prop :=
  ∃ c' k, post c' ∧ k ≤ n ∧ ∀ fuel, run (fuel + k) s c = continued fuel (next, c')

namespace Reaches

variable {s s' : State} {n m : Nat} {next : Option State} {post post' : Cursor → Prop}

theorem of_step {c' : Cursor} (hstep : step s c = .ok (next, c')) (hpost : post c') :
    Reaches s c 1 next post := by
  refine ⟨c', 1, hpost, Nat.le_refl 1, ?_⟩
  intro fuel
  rw [run_succ, hstep]
  rfl

theorem trans (h : Reaches s c n (some s') post)
    (h' : ∀ c', post c' → Reaches s' c' m next post') : Reaches s c (n + m) next post' := by
  obtain ⟨c₁, k, hpost, hk, hrun⟩ := h
  obtain ⟨c₂, k', hpost', hk', hrun'⟩ := h' c₁ hpost
  refine ⟨c₂, k' + k, hpost', by omega, ?_⟩
  intro fuel
  rw [← Nat.add_assoc, hrun]
  exact hrun' fuel

theorem step_then {c' : Cursor} (hstep : step s c = .ok (some s', c'))
    (h : Reaches s' c' n next post) : Reaches s c (n + 1) next post := by
  obtain ⟨c₁, k, hpost, hk, hrun⟩ := h
  refine ⟨c₁, k + 1, hpost, by omega, ?_⟩
  intro fuel
  rw [← Nat.add_assoc, run_succ, hstep]
  exact hrun fuel

theorem mono (h : Reaches s c n next post) (hle : n ≤ m) : Reaches s c m next post := by
  obtain ⟨c', k, hpost, hk, hrun⟩ := h
  exact ⟨c', k, hpost, Nat.le_trans hk hle, hrun⟩

end Reaches

/-! ### Between brackets -/

/-- A part between two brackets is passed over: its value is found and skipped, and the white space
behind it too. -/
def IsPart (b : Bracket) (part : List Char) : Prop :=
  ∃ (before : Space) (body : List Char), part = before.chars ++ body ∧ Begins body ∧
    ∀ (outer : List Bracket) (c : Cursor) (more : List Char), Ends more → NoSpace more →
      c.skipSpaces.rest = body ++ more →
      ∃ c', item b c = .ok c' ∧ Reaches ⟨b :: outer, .value⟩ c' (2 * part.length)
        (some ⟨b :: outer, .after⟩) (·.skipSpaces.rest = more)

/-- The text behind a part: a comma and the next part, or the closing bracket. -/
theorem behind_part (b : Bracket) (parts : List (List Char)) (rest : List Char) :
    Ends ((parts.flatMap fun p => ',' :: p) ++ b.closing :: rest) ∧
      NoSpace ((parts.flatMap fun p => ',' :: p) ++ b.closing :: rest) := by
  cases parts with
  | nil => cases b <;> exact ⟨ends_cons (by decide), noSpace_cons (by decide)⟩
  | cons part parts => exact ⟨ends_cons (by decide), noSpace_cons (by decide)⟩

theorem closing_notMem (b : Bracket) {x : Char}
    (hx : x ∉ [' ', '\n', '\t', '\r', ',', ':', ']', '\x7d']) : x ≠ b.closing := by
  rintro rfl
  cases b <;> simp [Bracket.closing] at hx

/-- The closing bracket ends the value around it. -/
theorem step_closing (b : Bracket) (outer : List Bracket) {phase : Phase}
    (hphase : phase = .opened ∨ phase = .after) (hc : c.skipSpaces.rest = b.closing :: rest) :
    step ⟨b :: outer, phase⟩ c = .ok (afterValue outer, c.skipSpaces.eat) := by
  rcases hphase with rfl | rfl <;> simp [step, inside, Cursor.peek?_of_rest hc]

/-- A comma leads to the next part. -/
theorem step_comma {b : Bracket} {c' : Cursor} (outer : List Bracket)
    (hc : c.skipSpaces.rest = ',' :: rest) (hitem : item b c.skipSpaces.eat = .ok c') :
    step ⟨b :: outer, .after⟩ c = .ok (some ⟨b :: outer, .value⟩, c') := by
  have hclosing : ',' ≠ b.closing := by cases b <;> decide
  simp [step, inside, Cursor.peek?_of_rest hc, hclosing, hitem]
  rfl

/-- After an opening bracket there may be the first part. -/
theorem step_first {b : Bracket} {c' : Cursor} (outer : List Bracket)
    (hbegins : Begins c.skipSpaces.rest) (hitem : item b c.skipSpaces = .ok c') :
    step ⟨b :: outer, .opened⟩ c = .ok (some ⟨b :: outer, .value⟩, c') := by
  obtain ⟨x, more, hrest, hx⟩ := hbegins
  simp [step, inside, Cursor.peek?_of_rest hrest, closing_notMem b hx, hitem]
  rfl

/-- The parts after the first one are passed over, and the closing bracket. -/
theorem reaches_parts_more (rest : List Char) (b : Bracket) (outer : List Bracket)
    {parts : List (List Char)} (hparts : ∀ part ∈ parts, IsPart b part) (c : Cursor)
    (hc : c.skipSpaces.rest = (parts.flatMap fun p => ',' :: p) ++ b.closing :: rest) :
    Reaches ⟨b :: outer, .after⟩ c (2 * (parts.flatMap fun p => ',' :: p).length + 1)
      (afterValue outer) (·.rest = rest) := by
  induction parts generalizing c with
  | nil =>
    have hstep := step_closing b outer (.inr rfl) hc
    exact (Reaches.of_step hstep (Cursor.rest_eat hc)).mono (by simp)
  | cons part parts ih =>
    obtain ⟨before, body, rfl, hbegins, hskip⟩ := hparts part List.mem_cons_self
    obtain ⟨hends, hspace⟩ := behind_part b parts rest
    have hcomma : c.skipSpaces.rest = ',' :: (before.chars ++ (body
        ++ ((parts.flatMap fun p => ',' :: p) ++ b.closing :: rest))) := by
      rw [hc]
      simp
    obtain ⟨c₁, hitem, hreaches⟩ := hskip outer c.skipSpaces.eat _ hends hspace
      (Cursor.rest_skipSpaces before (Cursor.rest_eat hcomma) (hbegins.append _).noSpace)
    have hrest := ih fun p hp => hparts p (List.mem_cons_of_mem _ hp)
    refine ((hreaches.trans hrest).step_then (step_comma outer hcomma hitem)).mono ?_
    simp only [List.flatMap_cons, List.length_append, List.length_cons]
    omega

/-- All that stands between two brackets is passed over, and the closing bracket. -/
theorem reaches_parts (b : Bracket) (outer : List Bracket) (s : Space) {parts : List (List Char)}
    (hparts : ∀ part ∈ parts, IsPart b part)
    (hc : c.rest = between s parts ++ b.closing :: rest) :
    Reaches ⟨b :: outer, .opened⟩ c (2 * (between s parts).length + 2) (afterValue outer)
      (·.rest = rest) := by
  cases parts with
  | nil =>
    have hclosing := Cursor.rest_skipSpaces s hc (behind_part b [] rest).2
    have hstep := step_closing b outer (.inl rfl) hclosing
    exact (Reaches.of_step hstep (Cursor.rest_eat hclosing)).mono (by omega)
  | cons part parts =>
    obtain ⟨before, body, rfl, hbegins, hskip⟩ := hparts part List.mem_cons_self
    obtain ⟨hends, hspace⟩ := behind_part b parts rest
    have hbody : c.skipSpaces.rest
        = body ++ ((parts.flatMap fun p => ',' :: p) ++ b.closing :: rest) := by
      refine Cursor.rest_skipSpaces before ?_ (hbegins.append _).noSpace
      rw [hc, between_cons]
      simp
    have hagain : c.skipSpaces.skipSpaces.rest
        = body ++ ((parts.flatMap fun p => ',' :: p) ++ b.closing :: rest) := by
      rw [Cursor.rest_skipSpaces_self (hbody ▸ (hbegins.append _).noSpace), hbody]
    obtain ⟨c₁, hitem, hreaches⟩ := hskip outer c.skipSpaces _ hends hspace hagain
    have hrest := reaches_parts_more rest b outer fun p hp => hparts p (List.mem_cons_of_mem _ hp)
    have hfirst := step_first outer (hbody ▸ hbegins.append _) hitem
    refine ((hreaches.trans hrest).step_then hfirst).mono ?_
    simp only [between_cons, List.length_append]
    omega

/-! ### Values -/

/-- A value is passed over with any stack. -/
def Skips (cs : List Char) : Prop :=
  ∀ (outer : List Bracket) (c : Cursor) (rest : List Char), Ends rest →
    c.skipSpaces.rest = cs ++ rest →
    Reaches ⟨outer, .value⟩ c (2 * cs.length) (afterValue outer) (·.rest = rest)

/-- A value is passed over and the white space behind it. -/
theorem Skips.padded {cs : List Char} (h : Skips cs) (after : Space) {outer : List Bracket}
    {more : List Char} {n : Nat} (hends : Ends more) (hspace : NoSpace more)
    (hn : 2 * cs.length ≤ n) (hc : c.skipSpaces.rest = cs ++ (after.chars ++ more)) :
    Reaches ⟨outer, .value⟩ c n (afterValue outer) (·.skipSpaces.rest = more) := by
  obtain ⟨c', k, hrest, hk, hrun⟩ := h outer c _ (ends_append after hends) hc
  exact ⟨c', k, Cursor.rest_skipSpaces after hrest hspace, Nat.le_trans hk hn, hrun⟩

theorem isPart_item {i : WrittenItem} (h : Written i.value i.chars) (hskips : Skips i.chars) :
    IsPart .array i.text := by
  refine ⟨i.before, i.chars ++ i.after.chars, rfl, h.begins.append _, ?_⟩
  intro outer c more hends hspace hc
  rw [List.append_assoc] at hc
  refine ⟨c, rfl, hskips.padded i.after hends hspace ?_ hc⟩
  simp only [WrittenItem.text, List.length_append]
  omega

theorem isPart_member {m : WrittenMember} (h : Written m.value m.chars) (hskips : Skips m.chars) :
    IsPart .object m.text := by
  refine ⟨m.before, m.nameChars ++ (m.told ++ m.after.chars), rfl, m.named.begins.append _, ?_⟩
  intro outer c more hends hspace hc
  obtain ⟨text, hname, hspelled⟩ := m.named.exists_spelled
  have hquoted : c.skipSpaces.rest
      = '"' :: (text ++ '"' :: (m.told ++ (m.after.chars ++ more))) := by
    rw [hc, hname]
    simp
  obtain ⟨c₁, hskip, hc₁⟩ := passes_skipString hspelled (Cursor.rest_eat hquoted)
  obtain ⟨c₂, hpast, hc₂⟩ := exists_pastColon h hc₁
  refine ⟨c₂, ?_, hskips.padded m.after hends hspace ?_ hc₂⟩
  · unfold item
    simp only [Cursor.peek?_of_rest hquoted, if_true, hskip]
    exact hpast
  · simp only [WrittenMember.text, WrittenMember.told, List.length_append, List.length_cons]
    omega

/-- A scalar takes one step. -/
theorem Reaches.of_value {outer : List Bracket} {cs : List Char} (hlength : 0 < cs.length)
    {x : Except Failure Cursor} (hpasses : Passes x rest)
    (hvalue : value outer c.skipSpaces = (afterValue outer, ·) <$> x) :
    Reaches ⟨outer, .value⟩ c (2 * cs.length) (afterValue outer) (·.rest = rest) := by
  obtain ⟨c', rfl, hc'⟩ := hpasses
  have hstep : step ⟨outer, .value⟩ c = .ok (afterValue outer, c') := hvalue
  exact (Reaches.of_step hstep hc').mono (by omega)

theorem skips_keyword {word : List Char} {v : Json} (h : (word, v) ∈ keywords) : Skips word := by
  simp only [keywords, List.mem_cons, Prod.mk.injEq, List.not_mem_nil, or_false] at h
  intro outer c rest _ hc
  rcases h with ⟨rfl, -⟩ | ⟨rfl, -⟩ | ⟨rfl, -⟩
  all_goals
    refine Reaches.of_value (by decide) (passes_expectWord (Cursor.rest_eat hc)) ?_
    unfold value
    rw [Cursor.peek?_of_rest hc]
    rfl

theorem skips_text {s : String} {cs : List Char} (h : IsText s cs) : Skips cs := by
  intro outer c rest _ hc
  obtain ⟨text, rfl, hspelled⟩ := h.exists_spelled
  have hquoted : c.skipSpaces.rest = '"' :: (text ++ '"' :: rest) := by
    rw [hc]
    simp
  have hpasses := passes_skipString hspelled (Cursor.rest_eat hquoted)
  refine Reaches.of_value (Nat.succ_pos _) hpasses ?_
  unfold value
  rw [Cursor.peek?_of_rest hquoted]
  rfl

theorem skips_number {cs : List Char} (h : IsNumber cs) : Skips cs := by
  intro outer c rest hrest hc
  have hpasses := passes_skipNumber h hrest hc
  obtain ⟨x, more, rfl, hx⟩ := h.exists_cons
  have hnot := number_first hx
  simp only [List.mem_cons, List.not_mem_nil, or_false, not_or] at hnot
  refine Reaches.of_value (Nat.succ_pos _) hpasses ?_
  unfold value
  rw [Cursor.peek?_of_rest hc]
  simp only [hnot, hx, if_true, if_false]

/-- An opening bracket takes one step, and all up to its end the others. -/
theorem skips_brackets (b : Bracket) {opening : Char} (s : Space) {parts : List (List Char)}
    (hparts : ∀ part ∈ parts, IsPart b part)
    (hvalue : ∀ (outer : List Bracket) (c : Cursor) (more : List Char), c.rest = opening :: more →
      value outer c = .ok (some ⟨b :: outer, .opened⟩, c.eat)) :
    Skips (opening :: (between s parts ++ [b.closing])) := by
  intro outer c rest hrest hc
  have hopened : c.skipSpaces.rest = opening :: (between s parts ++ b.closing :: rest) := by
    rw [hc]
    simp
  have hstep : step ⟨outer, .value⟩ c = .ok (some ⟨b :: outer, .opened⟩, c.skipSpaces.eat) :=
    hvalue outer _ _ hopened
  have hparts' := reaches_parts b outer s hparts (Cursor.rest_eat hopened)
  refine (hparts'.step_then hstep).mono ?_
  simp only [List.length_cons, List.length_append, List.length_nil]
  omega

end Skip

open Skip

/-- Every text of a value is skipped. -/
theorem Written.skips {v : Json} {cs : List Char} (h : Written v cs) : Skips cs := by
  induction h with
  | null => exact skips_keyword (v := .null) (by simp [keywords])
  | yes => exact skips_keyword (v := .boolean true) (by simp [keywords])
  | no => exact skips_keyword (v := .boolean false) (by simp [keywords])
  | integer n => exact skips_number (isNumber_signedDigits n)
  | float h => exact skips_number h
  | text h => exact skips_text h
  | array s h ih =>
    refine skips_brackets .array s ?_ ?_
    · intro part hpart
      obtain ⟨i, hi, rfl⟩ := List.mem_map.mp hpart
      exact isPart_item (h i hi) (ih i hi)
    · intro outer c more hc
      unfold value
      rw [Cursor.peek?_of_rest hc]
      rfl
  | object s hperm h ih =>
    refine skips_brackets .object s ?_ ?_
    · intro part hpart
      obtain ⟨m, hm, rfl⟩ := List.mem_map.mp hpart
      exact isPart_member (h m hm) (ih m hm)
    · intro outer c more hc
      unfold value
      rw [Cursor.peek?_of_rest hc]
      rfl

/-- A value is skipped. -/
theorem passes_skipValue {v : Json} {cs rest : List Char} {c : Cursor} (h : Written v cs)
    (hrest : Ends rest) (hc : c.skipSpaces.rest = cs ++ rest) : Passes (skipValue c) rest := by
  obtain ⟨c', k, hc', hk, hrun⟩ := h.skips [] c rest hrest hc
  have hlength : cs.length ≤ c.rest.length := by
    have hsuffix : c.skipSpaces.rest.length ≤ c.rest.length := List.length_dropWhile_le _ _
    rw [hc, List.length_append] at hsuffix
    omega
  refine ⟨c', ?_, hc'⟩
  obtain ⟨fuel, hfuel⟩ : ∃ fuel, 2 * c.rest.length + 2 = fuel + k :=
    ⟨2 * c.rest.length + 2 - k, by omega⟩
  unfold skipValue
  rw [hfuel, hrun]
  rfl

end CameraFeed.Json
