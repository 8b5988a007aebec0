import CameraFeed.Proofs.Decimal.Numeral
import CameraFeed.Proofs.Text.Lines
import CameraFeed.Time.Uptime

/-! # Uptime — numbers of seconds read back from their units

  An uptime is read as the parts between its spaces, each of them digits with the letter of a unit
  behind. A list of parts is canonical if its units run down to seconds without a gap, no part
  reaches the next larger unit, and no zero stands in front of other parts. Each number of seconds
  has one canonical list of parts, and its uptime is this list. -/

namespace CameraFeed.Time

/-! ### Reading -/

/-- The letters of the units, the largest one first. -/
def unitLetters : List Char := ['d', 'h', 'm', 's']

/-- The seconds of a unit. No other letter is one. -/
def unitSeconds : Char → Nat
  | 'd' => 86400
  | 'h' => 3600
  | 'm' => 60
  | 's' => 1
  | _ => 0

namespace Part

/-- The seconds of a part. -/
def seconds (p : Part) : Nat := p.amount * unitSeconds p.unit

/-- The part that a word is: digits and a last letter. -/
def ofWord? (word : List Char) : Option Part :=
  match word.getLast? with
  | none => none
  | some unit =>
    if word.dropLast ≠ [] ∧ word.dropLast.all Decimal.isDigit then
      some ⟨Decimal.value word.dropLast, unit⟩
    else none

theorem toList_text (p : Part) : p.text.toList = Decimal.digits p.amount ++ [p.unit] := by
  simp [text]

/-- A part is read from its text. -/
theorem ofWord?_text (p : Part) : ofWord? p.text.toList = some p := by
  have hall : (Decimal.digits p.amount).all Decimal.isDigit = true :=
    List.all_eq_true.mpr fun _ => Decimal.isDigit_of_mem_digits
  rw [toList_text, ofWord?, List.getLast?_concat]
  simp only [List.dropLast_concat]
  rw [if_pos ⟨Decimal.digits_ne_nil _, hall⟩, Decimal.value_digits]

theorem space_notMem_text {p : Part} (h : p.unit ∈ unitLetters) : ' ' ∉ p.text.toList := by
  rw [toList_text, List.mem_append, List.mem_singleton]
  rintro (hdigit | hunit)
  · exact absurd (Decimal.isDigit_of_mem_digits hdigit) (by decide)
  · exact absurd (hunit ▸ h) (by decide)

end Part

/-- The seconds of some parts together. -/
def total : List Part → Nat
  | [] => 0
  | p :: ps => p.seconds + total ps

/-- The parts of a text, between its spaces. -/
def partsOf? (s : String) : Option (List Part) :=
  (Text.pieces (· == ' ') s.toList).mapM Part.ofWord?

theorem mapM_ofWord?_text (ps : List Part) :
    (ps.map fun p => p.text.toList).mapM Part.ofWord? = some ps := by
  induction ps with
  | nil => rfl
  | cons p ps ih =>
    rw [List.map_cons, List.mapM_cons, Part.ofWord?_text, ih]
    rfl

/-! ### Canonical lists -/

/-- The parts are those of a number in the largest units there are. -/
structure Canonical (ps : List Part) : Prop where
  ne_nil : ps ≠ []
  /-- The units have no gap, and seconds are the last one. -/
  units : ps.map Part.unit <:+ unitLetters
  /-- No part reaches the next larger unit. -/
  below : ∀ p ∈ ps, (p.unit = 'h' → p.amount < 24) ∧ (p.unit = 'm' ∨ p.unit = 's' → p.amount < 60)
  /-- Only seconds may be zero and come first. -/
  first : ∀ p ∈ ps.head?, p.amount = 0 → p.unit = 's'

namespace Canonical

variable {ps : List Part}

/-- One to four parts, by the first unit. -/
theorem shape (h : Canonical ps) :
    (∃ days hours minutes seconds,
      ps = [⟨days, 'd'⟩, ⟨hours, 'h'⟩, ⟨minutes, 'm'⟩, ⟨seconds, 's'⟩] ∧
        0 < days ∧ hours < 24 ∧ minutes < 60 ∧ seconds < 60) ∨
    (∃ hours minutes seconds, ps = [⟨hours, 'h'⟩, ⟨minutes, 'm'⟩, ⟨seconds, 's'⟩] ∧
      0 < hours ∧ hours < 24 ∧ minutes < 60 ∧ seconds < 60) ∨
    (∃ minutes seconds, ps = [⟨minutes, 'm'⟩, ⟨seconds, 's'⟩] ∧
      0 < minutes ∧ minutes < 60 ∧ seconds < 60) ∨
    ∃ seconds, ps = [⟨seconds, 's'⟩] ∧ seconds < 60 := by
  -- The units decide how many parts there are, one case for each end of the list of letters.
  have hunits := h.units
  have hbelow := h.below
  have hfirst := h.first
  simp only [unitLetters, List.suffix_cons_iff, List.suffix_nil, List.map_eq_cons_iff,
    List.map_eq_nil_iff] at hunits
  rcases hunits with hdays | hhours | hminutes | hseconds | hnil
  · obtain ⟨⟨days, _⟩, _, rfl, rfl, ⟨hours, _⟩, _, rfl, rfl, ⟨minutes, _⟩, _, rfl, rfl,
      ⟨seconds, _⟩, _, rfl, rfl, rfl⟩ := hdays
    simp at hfirst hbelow
    exact .inl ⟨days, hours, minutes, seconds, rfl, by omega, hbelow⟩
  · obtain ⟨⟨hours, _⟩, _, rfl, rfl, ⟨minutes, _⟩, _, rfl, rfl, ⟨seconds, _⟩, _, rfl, rfl, rfl⟩ :=
      hhours
    simp at hfirst hbelow
    exact .inr (.inl ⟨hours, minutes, seconds, rfl, by omega, hbelow⟩)
  · obtain ⟨⟨minutes, _⟩, _, rfl, rfl, ⟨seconds, _⟩, _, rfl, rfl, rfl⟩ := hminutes
    simp at hfirst hbelow
    exact .inr (.inr (.inl ⟨minutes, seconds, rfl, by omega, hbelow⟩))
  · obtain ⟨⟨seconds, _⟩, _, rfl, rfl, rfl⟩ := hseconds
    simp at hbelow
    exact .inr (.inr (.inr ⟨seconds, rfl, hbelow⟩))
  · exact absurd hnil h.ne_nil

/-- A unit is listed if it fits into the number of seconds; seconds always are. -/
theorem unit_mem_iff (h : Canonical ps) {unit : Char} (hunit : unit ∈ unitLetters) :
    unit ∈ ps.map Part.unit ↔ unit = 's' ∨ unitSeconds unit ≤ total ps := by
  simp only [unitLetters, List.mem_cons, List.not_mem_nil, or_false] at hunit
  rcases h.shape with ⟨d, x, m, s, rfl, _⟩ | ⟨x, m, s, rfl, _⟩ | ⟨m, s, rfl, _⟩ | ⟨s, rfl, _⟩
  all_goals
    rcases hunit with rfl | rfl | rfl | rfl <;> simp [total, Part.seconds, unitSeconds] <;> omega

end Canonical

/-! ### The parts of an uptime -/

/-- The parts that an uptime lists. -/
def uptimeParts (n : Nat) : List Part :=
  match shownParts n with
  | [] => [⟨0, 's'⟩]
  | shown => shown

/-- The amounts of the four units are those that a number of seconds is made of. -/
theorem shownParts_of_amounts {n days hours minutes seconds : Nat}
    (hn : n = days * 86400 + hours * 3600 + minutes * 60 + seconds) (hhours : hours < 24)
    (hminutes : minutes < 60) (hseconds : seconds < 60) :
    shownParts n = [⟨days, 'd'⟩, ⟨hours, 'h'⟩, ⟨minutes, 'm'⟩, ⟨seconds, 's'⟩].dropWhile
      (·.amount == 0) := by
  have hparts : parts n = [⟨days, 'd'⟩, ⟨hours, 'h'⟩, ⟨minutes, 'm'⟩, ⟨seconds, 's'⟩] := by
    simp only [parts, List.cons.injEq, Part.mk.injEq, and_true]
    omega
  rw [shownParts, hparts]

/-- There is no other canonical list of parts that adds up to a number of seconds. -/
theorem Canonical.eq_uptimeParts {ps : List Part} (h : Canonical ps) :
    ps = uptimeParts (total ps) := by
  unfold uptimeParts
  rcases h.shape with ⟨days, hours, minutes, seconds, rfl, hpos, hhours, hminutes, hseconds⟩ |
    ⟨hours, minutes, seconds, rfl, hpos, hhours, hminutes, hseconds⟩ |
    ⟨minutes, seconds, rfl, hpos, hminutes, hseconds⟩ | ⟨seconds, rfl, hseconds⟩
  · have htotal : total [⟨days, 'd'⟩, ⟨hours, 'h'⟩, ⟨minutes, 'm'⟩, ⟨seconds, 's'⟩]
        = days * 86400 + hours * 3600 + minutes * 60 + seconds := by
      simp [total, Part.seconds, unitSeconds, Nat.add_assoc]
    rw [shownParts_of_amounts htotal hhours hminutes hseconds]
    simp [Nat.ne_of_gt hpos]
  · have htotal : total [⟨hours, 'h'⟩, ⟨minutes, 'm'⟩, ⟨seconds, 's'⟩]
        = 0 * 86400 + hours * 3600 + minutes * 60 + seconds := by
      simp [total, Part.seconds, unitSeconds, Nat.add_assoc]
    rw [shownParts_of_amounts htotal hhours hminutes hseconds]
    simp [Nat.ne_of_gt hpos]
  · have htotal : total [⟨minutes, 'm'⟩, ⟨seconds, 's'⟩]
        = 0 * 86400 + 0 * 3600 + minutes * 60 + seconds := by
      simp [total, Part.seconds, unitSeconds]
    rw [shownParts_of_amounts htotal (by decide) hminutes hseconds]
    simp [Nat.ne_of_gt hpos]
  · have htotal : total [⟨seconds, 's'⟩] = 0 * 86400 + 0 * 3600 + 0 * 60 + seconds := by
      simp [total, Part.seconds, unitSeconds]
    rw [shownParts_of_amounts htotal (by decide) (by decide) hseconds]
    -- No seconds are shown as such only when there is nothing else.
    rcases Nat.eq_zero_or_pos seconds with rfl | hpos
    · rfl
    · simp [Nat.ne_of_gt hpos]

/-- The parts that are left out are zero. -/
theorem total_dropWhile (ps : List Part) :
    total (ps.dropWhile (·.amount == 0)) = total ps := by
  induction ps with
  | nil => rfl
  | cons p ps ih =>
    by_cases hp : p.amount = 0
    · rw [List.dropWhile_cons_of_pos (by simpa using hp), ih]
      simp [total, Part.seconds, hp]
    · rw [List.dropWhile_cons_of_neg (by simpa using hp)]

theorem total_parts (n : Nat) : total (parts n) = n := by
  simp only [total, parts, Part.seconds, unitSeconds]
  omega

theorem total_uptimeParts (n : Nat) : total (uptimeParts n) = n := by
  have hshown : total (shownParts n) = n := (total_dropWhile (parts n)).trans (total_parts n)
  unfold uptimeParts
  split
  · rename_i hnil
    rw [hnil] at hshown
    exact hshown
  · exact hshown

theorem uptimeParts_suffix (n : Nat) : uptimeParts n <:+ parts n := by
  unfold uptimeParts
  split
  -- Nothing is shown of no seconds, and of nothing else.
  · rename_i hnil
    have hzero : n = 0 := by
      rw [← total_parts n, ← total_dropWhile, ← shownParts, hnil]
      rfl
    rw [hzero]
    exact ⟨[⟨0, 'd'⟩, ⟨0, 'h'⟩, ⟨0, 'm'⟩], rfl⟩
  · exact List.dropWhile_suffix _

theorem canonical_uptimeParts (n : Nat) : Canonical (uptimeParts n) where
  ne_nil := by
    unfold uptimeParts
    split
    · exact List.cons_ne_nil _ _
    · assumption
  units := (uptimeParts_suffix n).map Part.unit
  below := by
    intro p hp
    have hmem := (uptimeParts_suffix n).subset hp
    simp only [parts, List.mem_cons, List.not_mem_nil, or_false] at hmem
    rcases hmem with rfl | rfl | rfl | rfl <;> simp <;> omega
  first := by
    unfold uptimeParts
    split
    · simp
    · intro p hp hzero
      have hkept := List.head?_dropWhile_not (·.amount == 0) (parts n)
      rw [← shownParts, Option.mem_def.mp hp] at hkept
      simp [hzero] at hkept

/-! ### The main statement -/

theorem toList_uptime (n : Nat) :
    (uptime n).toList = Text.joinWith [' '] ((uptimeParts n).map fun p => p.text.toList) := by
  have huptime : uptime n = String.intercalate " " ((uptimeParts n).map Part.text) := by
    unfold uptime uptimeParts
    cases shownParts n with
    | nil => rfl
    | cons p ps => rfl
  rw [huptime, Text.toList_intercalate, List.map_map]
  rfl

/-- The parts of an uptime are read back from its text. -/
theorem partsOf?_uptime (n : Nat) : partsOf? (uptime n) = some (uptimeParts n) := by
  have hcanonical := canonical_uptimeParts n
  have hspace : ∀ word ∈ (uptimeParts n).map fun p => p.text.toList, ' ' ∉ word := by
    intro word hword
    obtain ⟨p, hp, rfl⟩ := List.mem_map.mp hword
    exact Part.space_notMem_text (hcanonical.units.subset (List.mem_map_of_mem hp))
  have hne : (uptimeParts n).map (fun p => p.text.toList) ≠ [] := by
    rw [ne_eq, List.map_eq_nil_iff]
    exact hcanonical.ne_nil
  -- No part has a space in it, so cutting at spaces undoes joining with them.
  rw [partsOf?, toList_uptime, Text.pieces_joinWith hspace hne, mapM_ofWord?_text]

/-- The uptime of any number of seconds, however many bits it takes, is the text of the one
canonical list of parts that adds up to it, with single spaces between the parts. It lists seconds
and the units that fit into the number, is `0s` for no seconds alone, and no other number has the
same text. -/
theorem parts_of_uptime (n : Nat) :
    ∃ ps, (uptime n).toList = Text.joinWith [' '] (ps.map fun p => p.text.toList) ∧
      partsOf? (uptime n) = some ps ∧ Canonical ps ∧ total ps = n ∧
      (∀ qs, Canonical qs → total qs = n → qs = ps) ∧
      (∀ unit ∈ unitLetters, unit ∈ ps.map Part.unit ↔ unit = 's' ∨ unitSeconds unit ≤ n) ∧
      (uptime n = "0s" ↔ n = 0) ∧ ∀ m, uptime m = uptime n → m = n := by
  have hcanonical := canonical_uptimeParts n
  have hsame : ∀ m k, uptime m = uptime k → m = k := by
    intro m k htext
    have hparts : uptimeParts m = uptimeParts k := by
      rw [← Option.some_inj, ← partsOf?_uptime, ← partsOf?_uptime, htext]
    rw [← total_uptimeParts m, hparts, total_uptimeParts]
  refine ⟨uptimeParts n, toList_uptime n, partsOf?_uptime n, hcanonical, total_uptimeParts n, ?_,
    ?_, ?_, fun m => hsame m n⟩
  · intro qs hqs htotal
    rw [hqs.eq_uptimeParts, htotal]
  · intro unit hunit
    rw [hcanonical.unit_mem_iff hunit, total_uptimeParts]
  · exact ⟨hsame n 0, fun hzero => hzero ▸ rfl⟩

/-- The largest number of 128 bits. -/
theorem parts_of_longestUptime :
    partsOf? (uptime (2 ^ 128 - 1))
        = some [⟨3938453320844195178974243141571391, 'd'⟩, ⟨8, 'h'⟩, ⟨4, 'm'⟩, ⟨15, 's'⟩] ∧
      ∀ m, uptime m = uptime (2 ^ 128 - 1) → m = 2 ^ 128 - 1 := by
  have hcanonical : Canonical
      [⟨3938453320844195178974243141571391, 'd'⟩, ⟨8, 'h'⟩, ⟨4, 'm'⟩, ⟨15, 's'⟩] :=
    ⟨List.cons_ne_nil _ _, ⟨[], rfl⟩, by simp, by simp⟩
  obtain ⟨ps, -, hread, -, -, hunique, -, -, hsame⟩ := parts_of_uptime (2 ^ 128 - 1)
  refine ⟨?_, hsame⟩
  rw [hread, ← hunique _ hcanonical rfl]

end CameraFeed.Time
