import CameraFeed.Json.Reader
import CameraFeed.Proofs.Json.Brackets
import CameraFeed.Proofs.Json.Members
import CameraFeed.Proofs.Json.Numbers

/-! # Reading — a written value is read as that value

  `gives_readValue` is by induction on how the value is written. A value that is not exact may be
  refused, or read as another one, but then too the reader stops where its text ends. -/

namespace CameraFeed.Json

variable {c : Cursor} {rest : List Char}

/-! ### First characters -/

theorem IsNumber.exists_cons {cs : List Char} (h : IsNumber cs) :
    ∃ x more, cs = x :: more ∧ (x = '-' ∨ Decimal.isDigit x = true) := by
  cases h with
  | @parts sign whole point exponent hsign hwhole hpoint hexponent =>
    obtain ⟨d, more, rfl, hd⟩ := hwhole.exists_cons
    rw [← Decimal.isDigit_eq] at hd
    simp only [List.mem_cons, List.not_mem_nil, or_false] at hsign
    rcases hsign with rfl | rfl
    · exact ⟨d, _, rfl, .inr hd⟩
    · exact ⟨'-', _, rfl, .inl rfl⟩

/-- The first character of a number is that of nothing else. -/
theorem number_first {x : Char} (h : x = '-' ∨ Decimal.isDigit x = true) :
    x ∉ [' ', '\n', '\t', '\r', ',', ':', ']', '\x7d', 'n', 't', 'f', '"', '[', '\x7b'] := by
  intro hmem
  have hall : ∀ y ∈ [' ', '\n', '\t', '\r', ',', ':', ']', '\x7d', 'n', 't', 'f', '"', '[', '\x7b'],
      ¬ (y = '-' ∨ Decimal.isDigit y = true) := by simp [Decimal.isDigit]
  exact hall x hmem h

theorem IsNumber.begins {cs : List Char} (h : IsNumber cs) : Begins cs := by
  obtain ⟨x, more, rfl, hx⟩ := h.exists_cons
  refine ⟨x, more, rfl, ?_⟩
  intro hmem
  exact number_first hx (List.mem_append_left ['n', 't', 'f', '"', '[', '\x7b'] hmem)

theorem Written.begins {v : Json} {cs : List Char} (h : Written v cs) : Begins cs := by
  cases h with
  | null => exact ⟨'n', _, rfl, by decide⟩
  | yes => exact ⟨'t', _, rfl, by decide⟩
  | no => exact ⟨'f', _, rfl, by decide⟩
  | integer n => exact (isNumber_signedDigits n).begins
  | float h => exact h.begins
  | text h => exact h.begins
  | array s h => exact ⟨'[', _, rfl, by decide⟩
  | object s hperm h => exact ⟨'\x7b', _, rfl, by decide⟩

/-- Before a value no white space is skipped. -/
theorem Written.rest_skipSpaces {v : Json} {cs : List Char} (h : Written v cs)
    (hc : c.rest = cs ++ rest) : c.skipSpaces.rest = cs ++ rest := by
  rw [Cursor.rest_skipSpaces_self (hc ▸ (h.begins.append rest).noSpace), hc]

/-! ### Scalars -/

theorem passes_expectWord {letters : List Char} (hc : c.rest = letters ++ rest) :
    Passes (expectWord letters c) rest := by
  induction letters generalizing c with
  | nil => exact ⟨c, rfl, hc⟩
  | cons l letters ih =>
    unfold expectWord
    rw [Cursor.peek?_of_rest hc]
    simp only [if_true]
    exact ih (Cursor.rest_eat hc)

/-- A scalar stands at the cursor, and reading it gives what it gives. -/
def GivesScalar (c : Cursor) (rest : List Char) (post : Json → Prop) (mayFail : Prop) : Prop :=
  ∃ r, scalar? c = some r ∧ Gives r rest post mayFail

/-- The words that are values. -/
def keywords : List (List Char × Json) :=
  [("null".toList, .null), ("true".toList, .boolean true), ("false".toList, .boolean false)]

theorem givesScalar_keyword {word : List Char} {v : Json} (h : (word, v) ∈ keywords)
    (hc : c.rest = word ++ rest) : GivesScalar c rest (· = v) False := by
  simp only [keywords, List.mem_cons, Prod.mk.injEq, List.not_mem_nil, or_false] at h
  rcases h with ⟨rfl, rfl⟩ | ⟨rfl, rfl⟩ | ⟨rfl, rfl⟩
  -- The first letter tells which word it has to be.
  all_goals
    unfold GivesScalar scalar?
    rw [Cursor.peek?_of_rest hc]
    refine ⟨_, rfl, (passes_expectWord (Cursor.rest_eat hc)).gives ?_⟩
    intro c' hc'
    exact ⟨hc', rfl⟩

theorem givesScalar_text {s : String} {cs : List Char} (h : IsText s cs)
    (hc : c.rest = cs ++ rest) : GivesScalar c rest (· = .text s) False := by
  obtain ⟨text, rfl, hspelled⟩ := h.exists_spelled
  have hquoted : c.rest = '"' :: (text ++ '"' :: rest) := by
    rw [hc]
    simp
  unfold GivesScalar scalar?
  rw [Cursor.peek?_of_rest hquoted]
  refine ⟨_, rfl, (gives_readString hspelled (Cursor.rest_eat hquoted)).bind ?_⟩
  rintro s' c' hc' rfl
  exact ⟨hc', rfl⟩

/-- A number is a scalar, which is what its reader says. -/
theorem givesScalar_number {cs : List Char} {post : Number → Prop} {mayFail : Prop}
    (h : IsNumber cs) (hc : c.rest = cs ++ rest) (hread : Gives (readNumber c) rest post mayFail) :
    GivesScalar c rest (fun w => ∃ n, w = .number n ∧ post n) mayFail := by
  obtain ⟨x, more, rfl, hx⟩ := h.exists_cons
  have hnot := number_first hx
  simp only [List.mem_cons, List.not_mem_nil, or_false, not_or] at hnot
  unfold GivesScalar scalar?
  rw [Cursor.peek?_of_rest hc]
  simp only [hnot, hx, if_true, if_false]
  refine ⟨_, rfl, hread.bind ?_⟩
  intro n c' hc' hn
  exact ⟨hc', n, rfl, hn⟩

/-- Brackets are no scalars. -/
theorem scalar?_bracket {x : Char} {more : List Char} (hx : x = '[' ∨ x = '\x7b')
    (hc : c.rest = x :: more) : scalar? c = none := by
  unfold scalar?
  rw [Cursor.peek?_of_rest hc]
  rcases hx with rfl | rfl <;> rfl

/-! ### Values -/

/-- A scalar is read whatever the room for brackets is. -/
theorem GivesScalar.readValue {post : Json → Prop} {mayFail : Prop} {room : Nat}
    (h : GivesScalar c.skipSpaces rest post mayFail) :
    Gives (readValue room c) rest post mayFail := by
  obtain ⟨r, hr, hgives⟩ := h
  cases room with
  | zero => simpa only [Json.readValue, hr] using hgives
  | succ room => simpa only [Json.readValue, hr] using hgives

/-- `Reads room v cs`: from the text `cs`, the reader gives the value `v` if it is exact. -/
def Reads (room : Nat) (v : Json) (cs : List Char) : Prop :=
  ∀ (c : Cursor) (rest : List Char), Ends rest → c.skipSpaces.rest = cs ++ rest →
    Gives (readValue room c) rest (fun w => Exact room v → w = v) (¬ Exact room v)

theorem reads_scalar {v : Json} {cs : List Char}
    (h : ∀ (c : Cursor) (rest : List Char), c.rest = cs ++ rest → GivesScalar c rest (· = v) False)
    (room : Nat) : Reads room v cs := by
  intro c rest _ hc
  exact (h _ rest hc).readValue.sure.imp (fun _ hw _ => hw) fun hfail => hfail

theorem reads_number {room : Nat} {n : Number} {cs : List Char} (h : IsNumber cs)
    (hn : ∀ (c : Cursor) (rest : List Char), Ends rest → c.rest = cs ++ rest →
      Gives (readNumber c) rest (fun m => Exact room (.number n) → m = n)
        (¬ Exact room (.number n))) :
    Reads room (.number n) cs := by
  intro c rest hrest hc
  refine (givesScalar_number h hc (hn _ rest hrest hc)).readValue.imp ?_ fun hfail => hfail
  rintro w ⟨m, rfl, hm⟩ hexact
  rw [hm hexact]

/-- Items that are exact are read as their own values. -/
theorem eq_map_of_forall₂ {room : Nat} {items : List WrittenItem} {ws : List Json}
    (h : List.Forall₂ (fun i w => Exact room i.value → w = i.value) items ws)
    (hexact : ∀ i ∈ items, Exact room i.value) : ws = items.map WrittenItem.value := by
  induction h with
  | nil => rfl
  | @cons i w items ws hw _ ih =>
    rw [hw (hexact i List.mem_cons_self), List.map_cons,
      ih fun j hj => hexact j (List.mem_cons_of_mem i hj)]

/-- In an array the items are read with less room. -/
theorem reads_array {items : List WrittenItem} (s : Space)
    (hwritten : ∀ i ∈ items, Written i.value i.chars)
    (hread : ∀ i ∈ items, ∀ room, Reads room i.value i.chars) (room : Nat) :
    Reads room (.array (items.map WrittenItem.value))
      ('[' :: (between s (items.map WrittenItem.text) ++ [']'])) := by
  intro c rest hrest hc
  have hopened : c.skipSpaces.rest
      = '[' :: (between s (items.map WrittenItem.text) ++ ']' :: rest) := by
    rw [hc]
    simp
  have hscalar := scalar?_bracket (.inl rfl) hopened
  -- Without room for another bracket the array is refused, and it is not exact.
  cases room with
  | zero =>
    simp only [readValue, hscalar, Cursor.peek?_of_rest hopened]
    rintro ⟨⟩
  | succ room =>
    have harray : Gives (arrayOf (readValue room) c.skipSpaces.eat) rest
        (fun ws => List.Forall₂ (fun i w => Exact room i.value → w = i.value) items ws)
        (¬ Exact (room + 1) (.array (items.map WrittenItem.value))) := by
      refine gives_arrayOf s ?_ (fun i hi => (hwritten i hi).begins) (Cursor.rest_eat hopened)
      intro i hi c' more hc' hends
      refine (hread i hi room c' more hends ((hwritten i hi).rest_skipSpaces hc')).imp
        (fun _ hw => hw) ?_
      intro hnot hexact
      cases hexact with
      | array hall => exact hnot (hall _ (List.mem_map_of_mem hi))
    simp only [readValue, hscalar, Cursor.peek?_of_rest hopened, if_true]
    refine harray.bind ?_
    intro ws c' hc' hws
    refine ⟨hc', ?_⟩
    intro hexact
    cases hexact with
    | array hall => rw [eq_map_of_forall₂ hws fun i hi => hall _ (List.mem_map_of_mem hi)]

/-- Past the colon of a member stands its value. -/
theorem exists_pastColon {m : WrittenMember} (h : Written m.value m.chars)
    (hc : c.rest = m.told ++ rest) :
    ∃ c', pastColon c = .ok c' ∧ c'.skipSpaces.rest = m.chars ++ rest := by
  have hwhole : c.rest
      = m.beforeColon.chars ++ ':' :: (m.afterColon.chars ++ (m.chars ++ rest)) := by
    rw [hc]
    simp [WrittenMember.told]
  obtain ⟨c', hpast, hc'⟩ := passes_pastColon m.beforeColon hwhole
  exact ⟨c', hpast, Cursor.rest_skipSpaces m.afterColon hc' (h.begins.append rest).noSpace⟩

/-- The pairs that are read so far are those of the exact members. -/
def Inserted (room : Nat) (done : List WrittenMember) (pairs : List (String × Json)) : Prop :=
  (∀ m ∈ done, Exact room m.value) → pairs = insertAll (done.map WrittenMember.pair) []

theorem gives_inserted {room : Nat} {m : WrittenMember} {done : List WrittenMember}
    {pairs : List (String × Json)} (hwritten : Written m.value m.chars)
    (hread : Reads room m.value m.chars) (hrest : Ends rest) (hpairs : Inserted room done pairs)
    (hc : c.rest = m.told ++ rest) :
    Gives (do
        let c ← pastColon c
        let (v, c) ← readValue room c
        .ok (insertMember m.name v pairs, c)) rest
      (Inserted room (done ++ [m])) (¬ Exact room m.value) := by
  obtain ⟨c₁, hpast, hc₁⟩ := exists_pastColon hwritten hc
  rw [hpast]
  refine (hread c₁ rest hrest hc₁).bind ?_
  intro w c₂ hc₂ hw
  refine ⟨hc₂, ?_⟩
  intro hexact
  have hdone := hpairs fun m' hm' => hexact m' (List.mem_append_left _ hm')
  have hlast := hw (hexact m (List.mem_append_right _ List.mem_cons_self))
  rw [hdone, hlast]
  simp [insertAll, WrittenMember.pair]

/-- In an object the members are put in one after another. -/
theorem reads_object {pairs : List (String × Json)} {members : List WrittenMember} (s : Space)
    (hperm : (members.map WrittenMember.pair).Perm pairs)
    (hwritten : ∀ m ∈ members, Written m.value m.chars)
    (hread : ∀ m ∈ members, ∀ room, Reads room m.value m.chars) (room : Nat) :
    Reads room (.object pairs)
      ('\x7b' :: (between s (members.map WrittenMember.text) ++ ['\x7d'])) := by
  intro c rest hrest hc
  have hopened : c.skipSpaces.rest
      = '\x7b' :: (between s (members.map WrittenMember.text) ++ '\x7d' :: rest) := by
    rw [hc]
    simp
  have hscalar := scalar?_bracket (.inr rfl) hopened
  have hbracket : ('\x7b' = '[') = False := by decide
  have hmem : ∀ m ∈ members, m.pair ∈ pairs := by
    intro m hm
    exact hperm.mem_iff.mp (List.mem_map_of_mem hm)
  -- Without room for another bracket the object is refused, and it is not exact.
  cases room with
  | zero =>
    simp only [readValue, hscalar, Cursor.peek?_of_rest hopened]
    rintro ⟨⟩
  | succ room =>
    have hobject : Gives (objectOf readString (fun name pairs c => do
          let c ← pastColon c
          let (v, c) ← readValue room c
          .ok (insertMember name v pairs, c)) [] c.skipSpaces.eat) rest
        (Inserted room members) (¬ Exact (room + 1) (.object pairs)) := by
      refine gives_objectOf (Inserted room) s ?_ (fun _ => rfl) (Cursor.rest_eat hopened)
      intro done m later hall inserted c' more hinserted hc' hends
      have hm : m ∈ members := by simp [hall]
      refine (gives_inserted (hwritten m hm) (hread m hm room) hends hinserted hc').imp
        (fun _ h => h) ?_
      intro hnot hexact
      cases hexact with
      | object hall hsorted => exact hnot (hall _ (hmem m hm))
    simp only [readValue, hscalar, Cursor.peek?_of_rest hopened, hbracket, if_true, if_false]
    refine hobject.bind ?_
    intro inserted c' hc' hinserted
    refine ⟨hc', ?_⟩
    intro hexact
    cases hexact with
    | object hall hsorted =>
      -- Inserting sorts the members, in whatever order they are listed.
      rw [hinserted fun m hm => hall _ (hmem m hm), insertAll_eq hperm hsorted]

/-- Every text of a value is read as that value. -/
theorem Written.reads {v : Json} {cs : List Char} (h : Written v cs) :
    ∀ room, Reads room v cs := by
  induction h with
  | null => exact reads_scalar fun _ _ => givesScalar_keyword (by simp [keywords])
  | yes => exact reads_scalar fun _ _ => givesScalar_keyword (by simp [keywords])
  | no => exact reads_scalar fun _ _ => givesScalar_keyword (by simp [keywords])
  | integer n =>
    intro room
    refine reads_number (isNumber_signedDigits n) ?_
    intro c rest hrest hc
    by_cases hexact : Exact room (.number (.integer n))
    · cases hexact with
      | integer hlow hhigh =>
        exact (gives_readNumber_integer hlow hhigh hrest hc).sure.imp (fun _ hm _ => hm)
          fun hfail => hfail
    · exact (gives_readNumber (isNumber_signedDigits n) hrest hc).imp
        (fun _ _ hexact' => absurd hexact' hexact) fun _ => hexact
  | float h =>
    intro room
    refine reads_number h ?_
    intro c rest hrest hc
    have hexact : ∀ x : Binary64, ¬ Exact room (.number (.float x)) := by
      intro x hexact'
      cases hexact'
    exact (gives_readNumber h hrest hc).imp (fun _ _ hexact' => absurd hexact' (hexact _))
      fun _ => hexact _
  | text h => exact reads_scalar fun _ _ => givesScalar_text h
  | array s h ih => exact reads_array s h ih
  | object s hperm h ih => exact reads_object s hperm h ih

/-! ### Whole texts -/

/-- After a value that is read up to the end of the text, the text is read as that value. -/
theorem readWhole_of_gives {α : Type} {reader : Nat → Reader α} {s : String} {a : α} (after : Space)
    (h : Gives (reader depthLimit (.ofText s)) after.chars (· = a) False) :
    readWhole reader s = .ok a := by
  obtain ⟨b, c, hread, hc, rfl⟩ := h.exists_ok
  have hend : c.skipSpaces.rest = [] :=
    Cursor.rest_skipSpaces after (by rw [hc, List.append_nil]) nofun
  have hpeek : c.skipSpaces.peek? = none := by simp [Cursor.peek?, hend]
  simp only [readWhole, hread, hpeek]

/-- An exact value is read back from any text of it. -/
theorem read_of_written {v : Json} {s : String} (h : Written v s.toList)
    (hexact : Exact depthLimit v) : read s = .ok v := by
  refine readWhole_of_gives .none ?_
  have hstart : (Cursor.ofText s).rest = s.toList ++ [] := (List.append_nil _).symm
  exact (h.reads depthLimit _ [] nofun (h.rest_skipSpaces hstart)).imp
    (fun _ hw => hw hexact) fun hnot => hnot hexact

end CameraFeed.Json
