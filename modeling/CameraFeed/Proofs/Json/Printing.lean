import CameraFeed.Json.Printer
import CameraFeed.Proofs.Json.Reading
import CameraFeed.Proofs.Text.Lines

/-! # Printing — an exact value is printed as a text of it

  What is printed over several lines is a text of the value, so it is read back as the value. The
  line feeds in it are those between its lines, because in strings every control character is
  escaped: the lines of the text, joined again, are the text. -/

namespace CameraFeed.Json

open Text (joinWith)

/-! ### Strings -/

theorem isUnit_control {n : Nat} (h : n < 32) :
    IsUnit n ['0', '0', hexDigit (n / 16), hexDigit (n % 16)] := by
  -- Below 32 only the last two of the four digits can differ from zero.
  have hdigit : ∀ d < 16, IsHex d (hexDigit d) := fun d hd => ⟨hd, .inl rfl⟩
  have hzero : IsHex 0 '0' := hdigit 0 (by decide)
  have hfirst : n / 4096 = 0 := by omega
  have hsecond : n / 256 % 16 = 0 := by omega
  have hthird : n / 16 % 16 = n / 16 := by omega
  refine .digits (hfirst ▸ hzero) (hsecond ▸ hzero) ?_ (hdigit _ (by omega))
  rw [hthird]
  exact hdigit _ (by omega)

/-- A character is printed as a string may have it. -/
theorem isLetter_escapedChar (c : Char) : IsLetter c (escapedChar c) := by
  -- Seven characters have a short escape, in the order in which the printer tries them.
  have hshort : ∀ e ∈ shortEscapes, IsLetter e.2 ['\\', e.1] := fun e he => .short he
  unfold escapedChar
  by_cases hquote : c = '"'
  · subst hquote
    exact hshort ('"', '"') (by decide)
  rw [if_neg hquote]
  by_cases hslash : c = '\\'
  · subst hslash
    exact hshort ('\\', '\\') (by decide)
  rw [if_neg hslash]
  by_cases hfeed : c = '\n'
  · subst hfeed
    exact hshort ('n', '\n') (by decide)
  rw [if_neg hfeed]
  by_cases hreturn : c = '\r'
  · subst hreturn
    exact hshort ('r', '\r') (by decide)
  rw [if_neg hreturn]
  by_cases htab : c = '\t'
  · subst htab
    exact hshort ('t', '\t') (by decide)
  rw [if_neg htab]
  by_cases hback : c.toNat = 8
  · obtain rfl : c = '\x08' := Char.toNat_inj.mp hback
    exact hshort ('b', '\x08') (by decide)
  rw [if_neg hback]
  by_cases hform : c.toNat = 12
  · obtain rfl : c = '\x0c' := Char.toNat_inj.mp hform
    exact hshort ('f', '\x0c') (by decide)
  rw [if_neg hform]
  by_cases hcontrol : c.toNat < 32
  · rw [if_pos hcontrol]
    exact .unit (isUnit_control hcontrol)
  · rw [if_neg hcontrol]
    exact .plain hquote hslash (Nat.le_of_not_lt hcontrol)

theorem spelled_escaped (cs : List Char) : Spelled cs (cs.flatMap escapedChar) := by
  induction cs with
  | nil => exact .nil
  | cons c cs ih => exact .cons (isLetter_escapedChar c) ih

theorem isText_writtenText (s : String) : IsText s (writtenText s) := .quoted (spelled_escaped _)

/-! ### Values -/

/-- The line end and the indentation between two lines. -/
def Space.line (depth : Nat) : Space where
  chars := newLine depth
  isSpace := by
    intro c hc
    rcases List.mem_cons.mp hc with rfl | hc
    · decide
    · rw [List.eq_of_mem_replicate hc]
      decide

/-- One blank. -/
def Space.blank : Space := ⟨[' '], by simp⟩

/-- An item on a line of its own. -/
def printedItem (depth : Nat) (after : Space) (v : Json) : WrittenItem :=
  ⟨.line depth, v, pretty depth v, after⟩

/-- A member on a line of its own. -/
def printedMember (depth : Nat) (after : Space) (m : String × Json) : WrittenMember :=
  ⟨.line depth, m.1, writtenText m.1, isText_writtenText m.1, .none, .blank, m.2,
    pretty depth m.2, after⟩

theorem prettyItems_eq (depth : Nat) (items : List Json) :
    prettyItems depth items
      = joinWith [','] (items.map fun v => (printedItem depth .none v).text) := by
  induction items with
  | nil => rfl
  | cons v items ih =>
    cases items with
    | nil => simp [prettyItems, joinWith, WrittenItem.text, printedItem, Space.line, Space.none]
    | cons w items =>
      rw [prettyItems, ih]
      · simp [joinWith, WrittenItem.text, printedItem, Space.line, Space.none]
      · intro h
        cases h

theorem prettyMembers_eq (depth : Nat) (members : List (String × Json)) :
    prettyMembers depth members
      = joinWith [','] (members.map fun m => (printedMember depth .none m).text) := by
  induction members with
  | nil => rfl
  | cons m members ih =>
    obtain ⟨name, v⟩ := m
    cases members with
    | nil =>
      simp [prettyMembers, joinWith, WrittenMember.text, WrittenMember.told, printedMember,
        Space.line, Space.none, Space.blank]
    | cons m members =>
      rw [prettyMembers, ih]
      · simp [joinWith, WrittenMember.text, WrittenMember.told, printedMember, Space.line,
          Space.none, Space.blank]
      · intro h
        cases h

theorem text_printedItem (depth : Nat) (after : Space) (v : Json) :
    (printedItem depth after v).text = (printedItem depth .none v).text ++ after.chars := by
  simp [WrittenItem.text, printedItem, Space.none]

theorem text_printedMember (depth : Nat) (after : Space) (m : String × Json) :
    (printedMember depth after m).text = (printedMember depth .none m).text ++ after.chars := by
  simp [WrittenMember.text, WrittenMember.told, printedMember, Space.none]

theorem between_append (s : Space) (parts : List (List Char)) (last : List Char) :
    between s (parts ++ [last]) = joinWith [','] (parts ++ [last]) := by
  cases parts <;> rfl

/-- Only the last of some printed parts has a text behind it. -/
theorem between_printed {α : Type} {text : Space → α → List Char}
    (htext : ∀ s a, text s a = text .none a ++ s.chars) (s : Space) (init : List α) (last : α) :
    between .none (init.map (text .none) ++ [text s last])
      = joinWith [','] ((init ++ [last]).map (text .none)) ++ s.chars := by
  rw [between_append, htext s last, ← Text.joinWith_append, List.map_append]
  rfl

/-- Items on lines of their own are written, with a line end before the closing bracket. -/
theorem written_items {depth : Nat} {items : List Json} (hne : items ≠ [])
    (h : ∀ v ∈ items, Written v (pretty (depth + 1) v)) :
    Written (.array items) ('[' :: (prettyItems (depth + 1) items ++ newLine depth ++ [']'])) := by
  rcases List.eq_nil_or_concat' items with rfl | ⟨init, last, rfl⟩
  · exact absurd rfl hne
  -- The line end before the bracket belongs to the last item, as the space after it.
  let written : List WrittenItem :=
    init.map (printedItem (depth + 1) .none) ++ [printedItem (depth + 1) (.line depth) last]
  have hvalues : written.map WrittenItem.value = init ++ [last] := by
    simp [written, printedItem, Function.comp_def]
  have hall : ∀ w ∈ written, Written w.value w.chars := by
    intro w hw
    rcases List.mem_append.mp hw with hw | hw
    · obtain ⟨v, hv, rfl⟩ := List.mem_map.mp hw
      exact h v (List.mem_append_left _ hv)
    · rw [List.mem_singleton.mp hw]
      exact h last (List.mem_append_right _ List.mem_cons_self)
  have htext : between .none (written.map WrittenItem.text)
      = prettyItems (depth + 1) (init ++ [last]) ++ newLine depth := by
    rw [prettyItems_eq, List.map_append, List.map_map]
    exact between_printed (text_printedItem (depth + 1)) (.line depth) init last
  rw [← htext, ← hvalues]
  exact .array .none hall

/-- Members on lines of their own are written, with a line end before the closing bracket. -/
theorem written_members {depth : Nat} {members : List (String × Json)} (hne : members ≠ [])
    (h : ∀ m ∈ members, Written m.2 (pretty (depth + 1) m.2)) :
    Written (.object members)
      ('\x7b' :: (prettyMembers (depth + 1) members ++ newLine depth ++ ['\x7d'])) := by
  rcases List.eq_nil_or_concat' members with rfl | ⟨init, last, rfl⟩
  · exact absurd rfl hne
  -- As for items: the last member has the line end after it.
  let written : List WrittenMember :=
    init.map (printedMember (depth + 1) .none) ++ [printedMember (depth + 1) (.line depth) last]
  have hpairs : written.map WrittenMember.pair = init ++ [last] := by
    simp [written, printedMember, WrittenMember.pair, Function.comp_def]
  have hall : ∀ w ∈ written, Written w.value w.chars := by
    intro w hw
    rcases List.mem_append.mp hw with hw | hw
    · obtain ⟨m, hm, rfl⟩ := List.mem_map.mp hw
      exact h m (List.mem_append_left _ hm)
    · rw [List.mem_singleton.mp hw]
      exact h last (List.mem_append_right _ List.mem_cons_self)
  have htext : between .none (written.map WrittenMember.text)
      = prettyMembers (depth + 1) (init ++ [last]) ++ newLine depth := by
    rw [prettyMembers_eq, List.map_append, List.map_map]
    exact between_printed (text_printedMember (depth + 1)) (.line depth) init last
  rw [← htext]
  exact .object .none (hpairs ▸ .refl _) hall

theorem pretty_array {depth : Nat} {items : List Json} (hne : items ≠ []) :
    pretty depth (.array items)
      = '[' :: (prettyItems (depth + 1) items ++ newLine depth ++ [']']) := by
  obtain ⟨v, rest, rfl⟩ := List.exists_cons_of_ne_nil hne
  rw [pretty]

theorem pretty_object {depth : Nat} {members : List (String × Json)} (hne : members ≠ []) :
    pretty depth (.object members)
      = '\x7b' :: (prettyMembers (depth + 1) members ++ newLine depth ++ ['\x7d']) := by
  obtain ⟨m, rest, rfl⟩ := List.exists_cons_of_ne_nil hne
  rw [pretty]

/-- An exact value is printed as a text of it. -/
theorem Exact.written_pretty {room : Nat} {v : Json} (h : Exact room v) (depth : Nat) :
    Written v (pretty depth v) := by
  induction h generalizing depth with
  | null => exact .null
  | boolean b =>
    cases b with
    | true => exact .yes
    | false => exact .no
  | @integer _ n _ _ => exact .integer n
  | text s => exact .text (isText_writtenText s)
  | @array room items h ih =>
    by_cases hne : items = []
    · subst hne
      have hempty : ∀ i ∈ ([] : List WrittenItem), Written i.value i.chars := nofun
      exact .array .none hempty
    · rw [pretty_array hne]
      exact written_items hne fun v hv => ih v hv (depth + 1)
  | @object room members h hsorted ih =>
    by_cases hne : members = []
    · subst hne
      have hempty : ∀ m ∈ ([] : List WrittenMember), Written m.value m.chars := nofun
      exact .object .none (.refl _) hempty
    · rw [pretty_object hne]
      exact written_members hne fun m hm => ih m hm (depth + 1)

/-- Exact members between brackets, each on a line of its own, are listed in their order. -/
theorem lists_prettyMembers {room : Nat} (depth : Nat) {members : List (String × Json)}
    (h : ∀ m ∈ members, Exact room m.2) :
    Lists members ('\x7b' :: (prettyMembers depth members ++ ['\x7d'])) := by
  have hall : ∀ w ∈ members.map (printedMember depth .none), Written w.value w.chars := by
    intro w hw
    obtain ⟨m, hm, rfl⟩ := List.mem_map.mp hw
    exact (h m hm).written_pretty depth
  have hpairs : (members.map (printedMember depth .none)).map WrittenMember.pair = members := by
    simp [printedMember, WrittenMember.pair, Function.comp_def]
  have hbetween : between .none ((members.map (printedMember depth .none)).map WrittenMember.text)
      = prettyMembers depth members := by
    rw [prettyMembers_eq, List.map_map]
    cases members <;> rfl
  have hlists := Lists.members .none .none .none hall
  rwa [hpairs, hbetween] at hlists

/-- An exact value is read back from what it is printed as. -/
theorem Exact.read_prettyText {v : Json} (h : Exact depthLimit v) :
    read (prettyText v) = .ok v := by
  refine read_of_written ?_ h
  rw [prettyText, String.toList_ofList]
  exact h.written_pretty 0

/-! ### Lines -/

/-- The characters of printed text: line feeds, and no other control characters. -/
def Printable (x : Char) : Prop := x = '\n' ∨ 0x20 ≤ x.toNat

instance (x : Char) : Decidable (Printable x) := inferInstanceAs (Decidable (_ ∨ _))

theorem IsHex.not_control {n : Nat} {x : Char} (h : IsHex n x) : 0x20 ≤ x.toNat := by
  have hall : ∀ m < 16,
      0x20 ≤ (Nat.digitChar m).toNat ∧ 0x20 ≤ (Nat.digitChar m).toUpper.toNat := by
    decide
  obtain ⟨hn, rfl | rfl⟩ := h
  · exact (hall n hn).1
  · exact (hall n hn).2

theorem IsUnit.not_control {n : Nat} {ds : List Char} (h : IsUnit n ds) :
    ∀ x ∈ ds, 0x20 ≤ x.toNat := by
  cases h with
  | digits ha hb hc hd =>
    simp [ha.not_control, hb.not_control, hc.not_control, hd.not_control]

/-- Inside a string no control character is written. -/
theorem IsLetter.not_control {c : Char} {letter : List Char} (h : IsLetter c letter) :
    ∀ x ∈ letter, 0x20 ≤ x.toNat := by
  cases h with
  | plain _ _ hcontrol => simpa using hcontrol
  | short h =>
    have hall : ∀ e ∈ shortEscapes, 0x20 ≤ e.1.toNat := by decide
    simpa using hall _ h
  | unit h => simpa using h.not_control
  | pair _ h h' =>
    intro x hx
    simp only [List.mem_cons, List.mem_append] at hx
    rcases hx with rfl | rfl | hx | rfl | rfl | hx
    · decide
    · decide
    · exact h.not_control x hx
    · decide
    · decide
    · exact h'.not_control x hx

theorem Spelled.not_control {cs text : List Char} (h : Spelled cs text) :
    ∀ x ∈ text, 0x20 ≤ x.toNat := by
  induction h with
  | nil => exact fun x hx => absurd hx List.not_mem_nil
  | cons hletter _ ih =>
    intro x hx
    rcases List.mem_append.mp hx with hx | hx
    · exact hletter.not_control x hx
    · exact ih x hx

theorem IsText.not_control {s : String} {cs : List Char} (h : IsText s cs) :
    ∀ x ∈ cs, 0x20 ≤ x.toNat := by
  obtain ⟨text, rfl, hspelled⟩ := h.exists_spelled
  intro x hx
  simp only [List.mem_cons, List.mem_append, List.not_mem_nil, or_false] at hx
  rcases hx with rfl | hx | rfl
  · decide
  · exact hspelled.not_control x hx
  · decide

theorem not_control_signedDigits (n : Int) : ∀ x ∈ Decimal.signedDigits n, 0x20 ≤ x.toNat := by
  have hdigit : ∀ x ∈ Decimal.digits n.natAbs, 0x20 ≤ x.toNat := by
    intro x hx
    have := Decimal.isDigit_of_mem_digits hx
    simp only [Decimal.isDigit, Bool.and_eq_true, decide_eq_true_eq] at this
    omega
  unfold Decimal.signedDigits
  split
  · simpa using hdigit
  · exact hdigit

theorem printable_of_all {cs : List Char} (h : cs.all (fun x => decide (Printable x)) = true) :
    ∀ x ∈ cs, Printable x :=
  fun x hx => of_decide_eq_true (List.all_eq_true.mp h x hx)

theorem printable_newLine (depth : Nat) : ∀ x ∈ newLine depth, Printable x := by
  intro x hx
  rcases List.mem_cons.mp hx with rfl | hx
  · exact .inl rfl
  · rw [List.eq_of_mem_replicate hx]
    exact .inr (by decide)

theorem printable_joinWith {parts : List (List Char)}
    (h : ∀ part ∈ parts, ∀ x ∈ part, Printable x) : ∀ x ∈ joinWith [','] parts, Printable x := by
  intro x hx
  rcases Text.of_mem_joinWith hx with hx | ⟨part, hpart, hx⟩
  · rw [List.mem_singleton.mp hx]
    exact .inr (by decide)
  · exact h part hpart x hx

theorem printable_item {depth : Nat} {v : Json} (h : ∀ x ∈ pretty depth v, Printable x) :
    ∀ x ∈ (printedItem depth .none v).text, Printable x := by
  intro x hx
  simp only [WrittenItem.text, printedItem, Space.none, List.append_nil] at hx
  rcases List.mem_append.mp hx with hx | hx
  · exact printable_newLine depth x hx
  · exact h x hx

theorem printable_member {depth : Nat} {m : String × Json}
    (h : ∀ x ∈ pretty depth m.2, Printable x) :
    ∀ x ∈ (printedMember depth .none m).text, Printable x := by
  intro x hx
  simp only [WrittenMember.text, WrittenMember.told, printedMember, Space.none, Space.blank,
    List.append_nil, List.nil_append] at hx
  rcases List.mem_append.mp hx with hx | hx
  · exact printable_newLine depth x hx
  · rcases List.mem_append.mp hx with hx | hx
    · exact .inr ((isText_writtenText m.1).not_control x hx)
    · simp only [List.mem_cons, List.mem_append, List.not_mem_nil, or_false] at hx
      rcases hx with rfl | rfl | hx
      · exact .inr (by decide)
      · exact .inr (by decide)
      · exact h x hx

/-- Brackets around lines add nothing but a line end. -/
theorem printable_brackets {opening closing : Char} {inner : List Char} (depth : Nat)
    (hopening : 0x20 ≤ opening.toNat) (hclosing : 0x20 ≤ closing.toNat)
    (h : ∀ x ∈ inner, Printable x) :
    ∀ x ∈ opening :: (inner ++ newLine depth ++ [closing]), Printable x := by
  intro x hx
  simp only [List.mem_cons, List.mem_append, List.not_mem_nil, or_false] at hx
  rcases hx with rfl | (hx | hx) | rfl
  · exact .inr hopening
  · exact h x hx
  · exact printable_newLine depth x hx
  · exact .inr hclosing

/-- In a printed value there are no control characters but line feeds. -/
theorem Exact.printable {room : Nat} {v : Json} (h : Exact room v) (depth : Nat) :
    ∀ x ∈ pretty depth v, Printable x := by
  induction h generalizing depth with
  | null =>
    show ∀ x ∈ "null".toList, Printable x
    exact printable_of_all (by decide)
  | boolean b =>
    show ∀ x ∈ writtenBoolean b, Printable x
    cases b <;> exact printable_of_all (by decide)
  | integer => exact fun x hx => .inr (not_control_signedDigits _ x hx)
  | text s => exact fun x hx => .inr ((isText_writtenText s).not_control x hx)
  | @array room items h ih =>
    by_cases hne : items = []
    · subst hne
      show ∀ x ∈ ['[', ']'], Printable x
      exact printable_of_all (by decide)
    · rw [pretty_array hne, prettyItems_eq]
      refine printable_brackets depth (by decide) (by decide) (printable_joinWith ?_)
      intro part hpart
      obtain ⟨v, hv, rfl⟩ := List.mem_map.mp hpart
      exact printable_item (ih v hv (depth + 1))
  | @object room members h hsorted ih =>
    by_cases hne : members = []
    · subst hne
      show ∀ x ∈ ['\x7b', '\x7d'], Printable x
      exact printable_of_all (by decide)
    · rw [pretty_object hne, prettyMembers_eq]
      refine printable_brackets depth (by decide) (by decide) (printable_joinWith ?_)
      intro part hpart
      obtain ⟨m, hm, rfl⟩ := List.mem_map.mp hpart
      exact printable_member (ih m hm (depth + 1))

theorem exists_append_of_not_control {cs : List Char} (hne : cs ≠ [])
    (h : ∀ x ∈ cs, 0x20 ≤ x.toNat) : ∃ init x, cs = init ++ [x] ∧ x ≠ '\n' := by
  refine ⟨cs.dropLast, cs.getLast hne, (List.dropLast_concat_getLast hne).symm, ?_⟩
  intro hx
  have hlast := h _ (List.getLast_mem hne)
  rw [hx] at hlast
  exact absurd hlast (by decide)

/-- A printed value does not end with a line feed. -/
theorem Exact.exists_append {room : Nat} {v : Json} (h : Exact room v) (depth : Nat) :
    ∃ cs x, pretty depth v = cs ++ [x] ∧ x ≠ '\n' := by
  cases h with
  | null => exact ⟨['n', 'u', 'l'], 'l', rfl, by decide⟩
  | boolean b =>
    cases b with
    | true => exact ⟨['t', 'r', 'u'], 'e', rfl, by decide⟩
    | false => exact ⟨['f', 'a', 'l', 's'], 'e', rfl, by decide⟩
  | @integer _ n _ _ =>
    have hne : Decimal.signedDigits n ≠ [] := by
      obtain ⟨x, more, hx, -⟩ := (isNumber_signedDigits n).exists_cons
      simp [hx]
    exact exists_append_of_not_control hne (not_control_signedDigits n)
  | text s =>
    exact exists_append_of_not_control (List.cons_ne_nil _ _) (isText_writtenText s).not_control
  | @array room items h =>
    by_cases hne : items = []
    · subst hne
      exact ⟨['['], ']', rfl, by decide⟩
    · rw [pretty_array hne, ← List.cons_append]
      exact ⟨_, ']', rfl, by decide⟩
  | @object room members h hsorted =>
    by_cases hne : members = []
    · subst hne
      exact ⟨['\x7b'], '\x7d', rfl, by decide⟩
    · rw [pretty_object hne, ← List.cons_append]
      exact ⟨_, '\x7d', rfl, by decide⟩

/-- The lines of a printed value, joined again, are the printed value. -/
theorem Exact.joinWith_lines {room : Nat} {v : Json} (h : Exact room v) (depth : Nat) :
    joinWith ['\n'] (Text.lines (pretty depth v)) = pretty depth v := by
  obtain ⟨cs, x, hcs, hx⟩ := h.exists_append depth
  have hreturn : ∀ part ∈ Text.pieces (· == '\n') (pretty depth v), '\r' ∉ part := by
    intro part hpart hmem
    have hprintable := h.printable depth _ (Text.mem_of_mem_pieces hpart _ hmem).1
    rcases hprintable with heq | hcontrol
    · exact absurd heq (by decide)
    · exact absurd hcontrol (by decide)
  have hlast : ∀ last ∈ (Text.pieces (· == '\n') (pretty depth v)).getLast?, last ≠ [] := by
    rw [hcs]
    exact Text.ne_nil_of_getLast?_pieces (by simpa using hx) cs
  rw [Text.lines, Text.linesOf_eq_of_getLast? hreturn hlast, Text.joinWith_pieces]

end CameraFeed.Json
