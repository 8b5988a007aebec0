import CameraFeed.Proofs.Json.Strings
import Mathlib.Data.List.Forall2

/-! # Brackets — items and members are read one after another

  What a reader does with each item between two brackets, it does with all of them: commas, colons
  and white space are crossed here. -/

namespace CameraFeed.Json

open Text (joinWith)

variable {c : Cursor} {rest : List Char}

/-! ### Crossing -/

/-- The text begins with a character that is no white space, no comma, no colon and no closing
bracket. -/
def Begins (cs : List Char) : Prop :=
  ∃ x more, cs = x :: more ∧ x ∉ [' ', '\n', '\t', '\r', ',', ':', ']', '\x7d']

theorem Begins.append {cs : List Char} (h : Begins cs) (more : List Char) :
    Begins (cs ++ more) := by
  obtain ⟨x, xs, rfl, hx⟩ := h
  exact ⟨x, xs ++ more, rfl, hx⟩

theorem Begins.noSpace {cs : List Char} (h : Begins cs) : NoSpace cs := by
  obtain ⟨x, more, rfl, hx⟩ := h
  refine noSpace_cons (Bool.eq_false_iff.mpr ?_)
  intro hspace
  have hmem := (isSpace_iff x).mp hspace
  simp only [List.mem_cons, List.not_mem_nil, or_false] at hmem hx
  rcases hmem with rfl | rfl | rfl | rfl <;> simp at hx

theorem IsText.begins {s : String} {cs : List Char} (h : IsText s cs) : Begins cs := by
  cases h
  exact ⟨'"', _, rfl, by decide⟩

theorem IsText.exists_spelled {s : String} {cs : List Char} (h : IsText s cs) :
    ∃ text, cs = '"' :: (text ++ ['"']) ∧ Spelled s.toList text := by
  cases h with
  | @quoted text h => exact ⟨text, rfl, h⟩

theorem gives_nextItem_end (first : Bool) (s : Space) (hc : c.rest = s.chars ++ ']' :: rest) :
    Gives (nextItem first c) (']' :: rest) (· = false) False := by
  have hskip := Cursor.rest_skipSpaces s hc (noSpace_cons (by decide))
  unfold nextItem
  simp only [Cursor.peek?_of_rest hskip, if_true]
  exact ⟨hskip, rfl⟩

theorem gives_nextItem_first (s : Space) (hbegins : Begins rest) (hc : c.rest = s.chars ++ rest) :
    Gives (nextItem true c) rest (· = true) False := by
  have hskip := Cursor.rest_skipSpaces s hc hbegins.noSpace
  obtain ⟨x, more, rfl, hx⟩ := hbegins
  have hclosing : x ≠ ']' := fun heq => hx (by simp [heq])
  unfold nextItem
  simp only [Cursor.peek?_of_rest hskip, hclosing, if_true, if_false]
  exact ⟨hskip, rfl⟩

theorem gives_nextItem_comma (s s' : Space) (hbegins : Begins rest)
    (hc : c.rest = s.chars ++ ',' :: (s'.chars ++ rest)) :
    Gives (nextItem false c) rest (· = true) False := by
  have hcomma := Cursor.rest_skipSpaces s hc (noSpace_cons (by decide))
  have hskip := Cursor.rest_skipSpaces s' (Cursor.rest_eat hcomma) hbegins.noSpace
  obtain ⟨x, more, rfl, hx⟩ := hbegins
  have hclosing : x ≠ ']' := fun heq => hx (by simp [heq])
  have hnot : (',' = ']') = False := by decide
  unfold nextItem
  simp only [Cursor.peek?_of_rest hcomma, Cursor.peek?_of_rest hskip, hclosing, hnot,
    Bool.false_eq_true, if_true, if_false]
  exact ⟨hskip, rfl⟩

theorem gives_nextMember_end (first : Bool) (s : Space)
    (hc : c.rest = s.chars ++ '\x7d' :: rest) :
    Gives (nextMember first c) ('\x7d' :: rest) (· = false) False := by
  have hskip := Cursor.rest_skipSpaces s hc (noSpace_cons (by decide))
  unfold nextMember
  simp only [Cursor.peek?_of_rest hskip, if_true]
  exact ⟨hskip, rfl⟩

theorem gives_nextMember_first (s : Space) (hc : c.rest = s.chars ++ '"' :: rest) :
    Gives (nextMember true c) ('"' :: rest) (· = true) False := by
  have hskip := Cursor.rest_skipSpaces s hc (noSpace_cons (by decide))
  have hnot : ('"' = '\x7d') = False := by decide
  unfold nextMember
  simp only [Cursor.peek?_of_rest hskip, hnot, if_true, if_false]
  exact ⟨hskip, rfl⟩

theorem gives_nextMember_comma (s s' : Space)
    (hc : c.rest = s.chars ++ ',' :: (s'.chars ++ '"' :: rest)) :
    Gives (nextMember false c) ('"' :: rest) (· = true) False := by
  have hcomma := Cursor.rest_skipSpaces s hc (noSpace_cons (by decide))
  have hskip := Cursor.rest_skipSpaces s' (Cursor.rest_eat hcomma) (noSpace_cons (by decide))
  have hnot : (',' = '\x7d') = False := by decide
  unfold nextMember
  simp only [Cursor.peek?_of_rest hcomma, Cursor.peek?_of_rest hskip, hnot, Bool.false_eq_true,
    if_true, if_false]
  exact ⟨hskip, rfl⟩

/-- The colon is crossed, with the white space before it. -/
theorem passes_pastColon (s : Space) (hc : c.rest = s.chars ++ ':' :: rest) :
    Passes (pastColon c) rest := by
  have hskip := Cursor.rest_skipSpaces s hc (noSpace_cons (by decide))
  unfold pastColon
  simp only [Cursor.peek?_of_rest hskip, if_true]
  exact ⟨_, rfl, Cursor.rest_eat hskip⟩

/-! ### Closing -/

section enclosed
variable {α : Type} {r : Except Failure (α × Cursor)} {post : α → Prop} {mayFail : Prop}

/-- A bracket that is closed as `close` does it. -/
theorem Gives.enclosed {close : Cursor → Cursor × Option Fault} {closing : Char}
    (hclose : ∀ c : Cursor, c.rest = closing :: rest →
      ∃ c', close c = (c', Option.none) ∧ c'.rest = rest)
    (h : Gives r (closing :: rest) post mayFail) :
    Gives (Json.enclosed close r) rest post mayFail := by
  cases r with
  | ok found =>
    obtain ⟨a, c⟩ := found
    obtain ⟨c', hclosed, hc'⟩ := hclose c h.1
    simp only [Json.enclosed, hclosed]
    exact ⟨hc', h.2⟩
  -- Whatever is tried to close, there is a failure.
  | error failure =>
    cases failure with
    | settled fault => exact h
    | unsettled mismatch place => exact h

theorem exists_closeArray (c : Cursor) (hc : c.rest = ']' :: rest) :
    ∃ c', closeArray c = (c', Option.none) ∧ c'.rest = rest := by
  have hskip := Cursor.rest_skipSpaces .none hc (noSpace_cons (by decide))
  refine ⟨c.skipSpaces.eat, ?_, Cursor.rest_eat hskip⟩
  unfold closeArray
  simp only [Cursor.peek?_of_rest hskip, if_true]

theorem exists_closeObject (c : Cursor) (hc : c.rest = '\x7d' :: rest) :
    ∃ c', closeObject c = (c', Option.none) ∧ c'.rest = rest := by
  have hskip := Cursor.rest_skipSpaces .none hc (noSpace_cons (by decide))
  refine ⟨c.skipSpaces.eat, ?_, Cursor.rest_eat hskip⟩
  unfold closeObject
  simp only [Cursor.peek?_of_rest hskip, if_true]

end enclosed

/-! ### Items and members -/

theorem between_cons (s : Space) (part : List Char) (parts : List (List Char)) :
    between s (part :: parts) = part ++ parts.flatMap fun p => ',' :: p := by
  show joinWith [','] (part :: parts) = _
  induction parts generalizing part with
  | nil => simp [joinWith]
  | cons next parts ih =>
    rw [joinWith, ih]
    · simp
    · simp

/-- The text behind an item or a member may follow a value. -/
theorem ends_more (s : Space) (parts : List (List Char)) {closing : Char}
    (hclosing : closing = ']' ∨ closing = '\x7d') :
    Ends (s.chars ++ ((parts.flatMap fun p => ',' :: p) ++ closing :: rest)) := by
  refine ends_append s ?_
  cases parts with
  | nil =>
    refine ends_cons ?_
    rcases hclosing with rfl | rfl <;> decide
  | cons part parts => exact ends_cons (by decide)

section items
variable {α : Type} {item : Reader α} {post : WrittenItem → α → Prop} {mayFail : Prop}

/-- One item, and then the items after it. -/
theorem gives_item_then {i : WrittenItem} {items : List WrittenItem} {fuel : Nat}
    (hitem : ∀ (c : Cursor) (more : List Char), c.rest = i.chars ++ more → Ends more →
      Gives (item c) more (post i) mayFail)
    (hmore : ∀ c : Cursor,
      c.rest = i.after.chars ++ (((items.map WrittenItem.text).flatMap fun p => ',' :: p)
        ++ ']' :: rest) →
      Gives (Json.items item fuel false c) (']' :: rest) (fun as => List.Forall₂ post items as)
        mayFail)
    (hc : c.rest = i.chars ++ (i.after.chars
      ++ (((items.map WrittenItem.text).flatMap fun p => ',' :: p) ++ ']' :: rest))) :
    Gives (do
        let (a, c) ← item c
        let (as, c) ← Json.items item fuel false c
        .ok (a :: as, c)) (']' :: rest)
      (fun as => List.Forall₂ post (i :: items) as) mayFail := by
  refine (hitem c _ hc (ends_more _ _ (.inl rfl))).bind ?_
  intro a c₁ hc₁ ha
  refine (hmore c₁ hc₁).bind ?_
  intro as c₂ hc₂ has
  exact ⟨hc₂, .cons ha has⟩

/-- The items after the first one. -/
theorem gives_items_more (rest : List Char) {items : List WrittenItem}
    (hitem : ∀ i ∈ items, ∀ (c : Cursor) (more : List Char), c.rest = i.chars ++ more → Ends more →
      Gives (item c) more (post i) mayFail)
    (hbegins : ∀ i ∈ items, Begins i.chars) :
    ∀ (fuel : Nat) (c : Cursor) (s : Space), items.length < fuel →
      c.rest = s.chars ++ (((items.map WrittenItem.text).flatMap fun p => ',' :: p)
        ++ ']' :: rest) →
      Gives (Json.items item fuel false c) (']' :: rest) (fun as => List.Forall₂ post items as)
        mayFail := by
  induction items with
  | nil =>
    intro fuel c s hfuel hc
    cases fuel with
    | zero => exact absurd hfuel (Nat.not_lt_zero _)
    | succ fuel =>
      refine (gives_nextItem_end false s hc).sure.bind ?_
      rintro more c' hc' rfl
      exact ⟨hc', .nil⟩
  | cons i items ih =>
    intro fuel c s hfuel hc
    cases fuel with
    | zero => exact absurd hfuel (Nat.not_lt_zero _)
    | succ fuel =>
      have hmore := ih (fun j hj => hitem j (List.mem_cons_of_mem _ hj))
        fun j hj => hbegins j (List.mem_cons_of_mem _ hj)
      have hwhole : c.rest = s.chars ++ ',' :: (i.before.chars ++ (i.chars ++ (i.after.chars
          ++ (((items.map WrittenItem.text).flatMap fun p => ',' :: p) ++ ']' :: rest)))) := by
        rw [hc]
        simp [WrittenItem.text]
      have hi := hbegins i List.mem_cons_self
      -- The comma, the item, and by induction the items after it.
      refine (gives_nextItem_comma s i.before (hi.append _) hwhole).sure.bind ?_
      rintro more c₁ hc₁ rfl
      exact gives_item_then (hitem i List.mem_cons_self)
        (fun c hc => hmore fuel c i.after (Nat.lt_of_succ_lt_succ hfuel) hc) hc₁

/-- All items of an array are read up to its end. -/
theorem gives_items {items : List WrittenItem} (s : Space)
    (hitem : ∀ i ∈ items, ∀ (c : Cursor) (more : List Char), c.rest = i.chars ++ more → Ends more →
      Gives (item c) more (post i) mayFail)
    (hbegins : ∀ i ∈ items, Begins i.chars) {fuel : Nat} (hfuel : items.length < fuel)
    (hc : c.rest = between s (items.map WrittenItem.text) ++ ']' :: rest) :
    Gives (Json.items item fuel true c) (']' :: rest) (fun as => List.Forall₂ post items as)
      mayFail := by
  cases fuel with
  | zero => exact absurd hfuel (Nat.not_lt_zero _)
  | succ fuel =>
    cases items with
    | nil =>
      refine (gives_nextItem_end true s hc).sure.bind ?_
      rintro more c' hc' rfl
      exact ⟨hc', .nil⟩
    | cons i items =>
      have hmore := gives_items_more rest
        (fun j hj => hitem j (List.mem_cons_of_mem i hj))
        fun j hj => hbegins j (List.mem_cons_of_mem i hj)
      have hwhole : c.rest = i.before.chars ++ (i.chars ++ (i.after.chars
          ++ (((items.map WrittenItem.text).flatMap fun p => ',' :: p) ++ ']' :: rest))) := by
        rw [hc, List.map_cons, between_cons]
        simp [WrittenItem.text]
      have hi := hbegins i List.mem_cons_self
      refine (gives_nextItem_first i.before (hi.append _) hwhole).sure.bind ?_
      rintro more c₁ hc₁ rfl
      exact gives_item_then (hitem i List.mem_cons_self)
        (fun c hc => hmore fuel c i.after (Nat.lt_of_succ_lt_succ hfuel) hc) hc₁

end items

section members
variable {σ : Type} {member : String → σ → Reader σ} {inv : List WrittenMember → σ → Prop}
  {mayFail : Prop}

/-- One member, and then the members after it. -/
theorem gives_member_then (members : List WrittenMember) {m : WrittenMember}
    {all done : List WrittenMember} {fuel : Nat} {s : σ} (hs : inv done s)
    (hmember : ∀ (s : σ) (c : Cursor) (more : List Char), inv done s → c.rest = m.told ++ more →
      Ends more → Gives (member m.name s c) more (inv (done ++ [m])) mayFail)
    (hmore : ∀ (s : σ) (c : Cursor), inv (done ++ [m]) s →
      c.rest = m.after.chars ++ (((members.map WrittenMember.text).flatMap fun p => ',' :: p)
        ++ '\x7d' :: rest) →
      Gives (Json.members readString member fuel false s c) ('\x7d' :: rest) (inv all) mayFail)
    (hc : c.rest = m.nameChars ++ (m.told ++ (m.after.chars
      ++ (((members.map WrittenMember.text).flatMap fun p => ',' :: p) ++ '\x7d' :: rest)))) :
    Gives (do
        let (n, c) ← readString c.eat
        let (s, c) ← member n s c
        Json.members readString member fuel false s c) ('\x7d' :: rest) (inv all) mayFail := by
  obtain ⟨text, hname, hspelled⟩ := m.named.exists_spelled
  have hquoted : c.eat.rest = text ++ '"' :: (m.told ++ (m.after.chars
      ++ (((members.map WrittenMember.text).flatMap fun p => ',' :: p) ++ '\x7d' :: rest))) := by
    refine Cursor.rest_eat (x := '"') ?_
    rw [hc, hname]
    simp
  refine (gives_readString hspelled hquoted).sure.bind ?_
  rintro n c₁ hc₁ rfl
  refine (hmember s c₁ _ hs hc₁ (ends_more _ _ (.inr rfl))).bind ?_
  intro s' c₂ hc₂ hs'
  exact hmore s' c₂ hs' hc₂

/-- The members after some that were read already. -/
theorem gives_members_more (rest : List Char) {all : List WrittenMember}
    (hmember : ∀ (done : List WrittenMember) (m : WrittenMember) (later : List WrittenMember),
      all = done ++ m :: later → ∀ (s : σ) (c : Cursor) (more : List Char), inv done s →
        c.rest = m.told ++ more → Ends more →
          Gives (member m.name s c) more (inv (done ++ [m])) mayFail)
    (members : List WrittenMember) :
    ∀ (fuel : Nat) (done : List WrittenMember) (s : σ) (c : Cursor) (space : Space),
      members.length < fuel → all = done ++ members → inv done s →
      c.rest = space.chars ++ (((members.map WrittenMember.text).flatMap fun p => ',' :: p)
        ++ '\x7d' :: rest) →
      Gives (Json.members readString member fuel false s c) ('\x7d' :: rest) (inv all) mayFail := by
  induction members with
  | nil =>
    intro fuel done s c space hfuel hall hs hc
    cases fuel with
    | zero => exact absurd hfuel (Nat.not_lt_zero _)
    | succ fuel =>
      refine (gives_nextMember_end false space hc).sure.bind ?_
      rintro more c' hc' rfl
      rw [hall, List.append_nil]
      exact ⟨hc', hs⟩
  | cons m members ih =>
    intro fuel done s c space hfuel hall hs hc
    cases fuel with
    | zero => exact absurd hfuel (Nat.not_lt_zero _)
    | succ fuel =>
      obtain ⟨text, hname, -⟩ := m.named.exists_spelled
      have hwhole : c.rest = space.chars ++ ',' :: (m.before.chars ++ '"' :: (text ++ '"' ::
          (m.told ++ (m.after.chars ++ (((members.map WrittenMember.text).flatMap fun p => ',' :: p)
            ++ '\x7d' :: rest))))) := by
        rw [hc]
        simp [WrittenMember.text, hname]
      -- The comma, the name and the value, and by induction the members after them.
      refine (gives_nextMember_comma space m.before hwhole).sure.bind ?_
      rintro more c₁ hc₁ rfl
      refine gives_member_then members hs (hmember done m members hall) ?_
        (by rw [hc₁, hname]; simp)
      intro s' c' hs' hc'
      rw [List.append_cons] at hall
      exact ih fuel (done ++ [m]) s' c' m.after (Nat.lt_of_succ_lt_succ hfuel) hall hs' hc'

/-- All members of an object are read up to its end. -/
theorem gives_members (inv : List WrittenMember → σ → Prop) {members : List WrittenMember}
    (space : Space)
    (hmember : ∀ (done : List WrittenMember) (m : WrittenMember) (later : List WrittenMember),
      members = done ++ m :: later → ∀ (s : σ) (c : Cursor) (more : List Char), inv done s →
        c.rest = m.told ++ more → Ends more →
          Gives (member m.name s c) more (inv (done ++ [m])) mayFail)
    {fuel : Nat} (hfuel : members.length < fuel) {s : σ} (hs : inv [] s)
    (hc : c.rest = between space (members.map WrittenMember.text) ++ '\x7d' :: rest) :
    Gives (Json.members readString member fuel true s c) ('\x7d' :: rest) (inv members)
      mayFail := by
  cases fuel with
  | zero => exact absurd hfuel (Nat.not_lt_zero _)
  | succ fuel =>
    cases members with
    | nil =>
      refine (gives_nextMember_end true space hc).sure.bind ?_
      rintro more c' hc' rfl
      exact ⟨hc', hs⟩
    | cons m members =>
      obtain ⟨text, hname, -⟩ := m.named.exists_spelled
      have hwhole : c.rest = m.before.chars ++ '"' :: (text ++ '"' :: (m.told ++ (m.after.chars
          ++ (((members.map WrittenMember.text).flatMap fun p => ',' :: p)
            ++ '\x7d' :: rest)))) := by
        rw [hc, List.map_cons, between_cons]
        simp [WrittenMember.text, hname]
      refine (gives_nextMember_first m.before hwhole).sure.bind ?_
      rintro more c₁ hc₁ rfl
      refine gives_member_then members hs (hmember [] m members rfl) ?_
        (by rw [hc₁, hname]; simp)
      intro s' c' hs' hc'
      exact gives_members_more rest hmember members fuel [m] s' c' m.after
        (Nat.lt_of_succ_lt_succ hfuel) rfl hs' hc'

end members

/-! ### Whole arrays and objects -/

theorem length_le_flatMap (parts : List (List Char)) :
    parts.length ≤ (parts.flatMap fun p => ',' :: p).length := by
  induction parts with
  | nil => exact Nat.le_refl 0
  | cons part parts ih =>
    simp only [List.flatMap_cons, List.length_append, List.length_cons]
    omega

/-- There are no more parts between brackets than characters. -/
theorem length_le_between (s : Space) {parts : List (List Char)}
    (h : ∀ part ∈ parts, part ≠ []) : parts.length ≤ (between s parts).length := by
  cases parts with
  | nil => exact Nat.zero_le _
  | cons part parts =>
    have hpart := List.length_pos_iff.mpr (h part List.mem_cons_self)
    have hparts := length_le_flatMap parts
    rw [between_cons, List.length_append, List.length_cons]
    omega

/-- An array is read up to its end, item by item. -/
theorem gives_arrayOf {α : Type} {item : Reader α} {post : WrittenItem → α → Prop} {mayFail : Prop}
    {items : List WrittenItem} (s : Space)
    (hitem : ∀ i ∈ items, ∀ (c : Cursor) (more : List Char), c.rest = i.chars ++ more → Ends more →
      Gives (item c) more (post i) mayFail)
    (hbegins : ∀ i ∈ items, Begins i.chars)
    (hc : c.rest = between s (items.map WrittenItem.text) ++ ']' :: rest) :
    Gives (arrayOf item c) rest (fun as => List.Forall₂ post items as) mayFail := by
  have htexts : ∀ part ∈ items.map WrittenItem.text, part ≠ [] := by
    intro part hpart
    obtain ⟨i, hi, rfl⟩ := List.mem_map.mp hpart
    obtain ⟨x, more, hchars, -⟩ := hbegins i hi
    simp [WrittenItem.text, hchars]
  have hlength := length_le_between s htexts
  have hfuel : items.length < c.rest.length + 1 := by
    rw [List.length_map] at hlength
    rw [hc, List.length_append]
    omega
  exact (gives_items s hitem hbegins hfuel hc).enclosed exists_closeArray

/-- There are fewer members in an object than characters. -/
theorem length_members_lt {members : List WrittenMember} (s : Space)
    (hc : c.rest = between s (members.map WrittenMember.text) ++ '\x7d' :: rest) :
    members.length < c.rest.length + 1 := by
  have htexts : ∀ part ∈ members.map WrittenMember.text, part ≠ [] := by
    intro part hpart
    obtain ⟨m, hm, rfl⟩ := List.mem_map.mp hpart
    simp [WrittenMember.text, WrittenMember.told]
  have hlength := length_le_between s htexts
  rw [List.length_map] at hlength
  rw [hc, List.length_append]
  omega

/-- An object is read up to its end, member by member. -/
theorem gives_objectOf {σ : Type} {member : String → σ → Reader σ}
    (inv : List WrittenMember → σ → Prop) {mayFail : Prop} {members : List WrittenMember}
    (space : Space)
    (hmember : ∀ (done : List WrittenMember) (m : WrittenMember) (later : List WrittenMember),
      members = done ++ m :: later → ∀ (s : σ) (c : Cursor) (more : List Char), inv done s →
        c.rest = m.told ++ more → Ends more →
          Gives (member m.name s c) more (inv (done ++ [m])) mayFail)
    {s : σ} (hs : inv [] s)
    (hc : c.rest = between space (members.map WrittenMember.text) ++ '\x7d' :: rest) :
    Gives (objectOf readString member s c) rest (inv members) mayFail :=
  (gives_members inv space hmember (length_members_lt space hc) hs hc).enclosed exists_closeObject

end CameraFeed.Json
