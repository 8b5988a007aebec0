import CameraFeed.Json.Strings
import CameraFeed.Proofs.Json.Cursor
import CameraFeed.Proofs.Text.Utf8

/-! # Strings — strings are read as they are spelled

  Whatever way a string is spelled in, it is read as that string, and skipped up to its end. -/

namespace CameraFeed.Json

/-! ### Escapes -/

theorem hexValue?_of_isHex {n : Nat} {c : Char} (h : IsHex n c) : hexValue? c = some n := by
  have hdigits : ∀ m < 16, hexValue? (Nat.digitChar m) = some m ∧
      hexValue? (Nat.digitChar m).toUpper = some m := by decide
  obtain ⟨hn, rfl | rfl⟩ := h
  · exact (hdigits n hn).1
  · exact (hdigits n hn).2

variable {c : Cursor} {rest : List Char}

theorem gives_unit {n : Nat} {ds : List Char} (h : IsUnit n ds) (hc : c.rest = ds ++ rest) :
    Gives (unit c) rest (· = n) False := by
  cases h with
  | @digits x y z w hx hy hz hw =>
    have hlow : n < 65536 := by
      have := hx.1
      omega
    have hvalue : fourDigits? x y z w = some n := by
      simp only [fourDigits?, hexValue?_of_isHex hx, hexValue?_of_isHex hy, hexValue?_of_isHex hz,
        hexValue?_of_isHex hw, Option.bind_eq_bind, Option.bind_some, Option.some.injEq]
      omega
    have hadvance : (c.advance 4).rest = rest := Cursor.rest_advance [x, y, z, w] hc
    unfold unit
    rw [hc]
    simp only [List.cons_append, hvalue]
    exact ⟨hadvance, rfl⟩

theorem passes_pairMark {mark : Char} (hc : c.rest = mark :: rest) :
    Passes (pairMark mark c) rest := by
  unfold pairMark
  rw [Cursor.peek?_of_rest hc]
  simp only [if_true]
  exact ⟨c.eat, rfl, Cursor.rest_eat hc⟩

/-- No character is a surrogate. -/
theorem not_surrogate (x : Char) : isLeading x.toNat = false ∧ isTrailing x.toNat = false := by
  have hvalid := Text.Utf8.toNat_valid x
  constructor
  · simp only [isLeading, Bool.and_eq_false_iff, decide_eq_false_iff_not]
    omega
  · simp only [isTrailing, Bool.and_eq_false_iff, decide_eq_false_iff_not]
    omega

theorem gives_numericEscape_unit {x : Char} {ds : List Char} (h : IsUnit x.toNat ds)
    (hc : c.rest = ds ++ rest) : Gives (numericEscape c) rest (· = x) False := by
  obtain ⟨hleading, htrailing⟩ := not_surrogate x
  refine (gives_unit h hc).bind ?_
  rintro n c' hc' rfl
  simp only [hleading, htrailing]
  exact ⟨hc', Char.ofNat_toNat x⟩

theorem gives_numericEscape_pair {n m : Nat} {ds ds' : List Char} (hn : isLeading n = true)
    (hm : isTrailing m = true) (h : IsUnit n ds) (h' : IsUnit m ds')
    (hc : c.rest = ds ++ ('\\' :: 'u' :: (ds' ++ rest))) :
    Gives (numericEscape c) rest (· = paired n m) False := by
  have hnot : isTrailing n = false := by
    simp only [isLeading, Bool.and_eq_true, decide_eq_true_eq] at hn
    simp only [isTrailing, Bool.and_eq_false_iff, decide_eq_false_iff_not]
    omega
  refine (gives_unit h hc).bind ?_
  rintro n' c₁ hc₁ rfl
  simp only [hnot, hn, if_true]
  refine (passes_pairMark hc₁).gives ?_
  intro c₂ hc₂
  refine (passes_pairMark hc₂).gives ?_
  intro c₃ hc₃
  refine (gives_unit h' hc₃).bind ?_
  rintro m' c₄ hc₄ rfl
  simp only [hm, if_true]
  exact ⟨hc₄, rfl⟩

/-- A character outside the basic plane has two halves, of which it is the pair. -/
theorem paired_halves {x : Char} (hx : 0x10000 ≤ x.toNat) :
    isLeading (0xD800 + (x.toNat - 0x10000) / 0x400) = true ∧
      isTrailing (0xDC00 + (x.toNat - 0x10000) % 0x400) = true ∧
      paired (0xD800 + (x.toNat - 0x10000) / 0x400) (0xDC00 + (x.toNat - 0x10000) % 0x400) = x := by
  have hvalid := Text.Utf8.toNat_valid x
  refine ⟨?_, ?_, ?_⟩
  · simp only [isLeading, Bool.and_eq_true, decide_eq_true_eq]
    omega
  · simp only [isTrailing, Bool.and_eq_true, decide_eq_true_eq]
    omega
  · have hsum : 0x10000 + (0xD800 + (x.toNat - 0x10000) / 0x400 - 0xD800) * 0x400
        + (0xDC00 + (x.toNat - 0x10000) % 0x400 - 0xDC00) = x.toNat := by omega
    rw [paired, hsum, Char.ofNat_toNat]

theorem simpleEscape?_of_mem {letter x : Char} (h : (letter, x) ∈ shortEscapes) :
    simpleEscape? letter = some x := by
  have hall : ∀ e ∈ shortEscapes, simpleEscape? e.1 = some e.2 := by decide
  exact hall _ h

/-! ### Reading -/

/-- A character is read as it is written. -/
theorem gives_stringPart {x : Char} {letter : List Char} (h : IsLetter x letter)
    (hc : c.rest = letter ++ rest) : Gives (stringPart c) rest (· = some x) False := by
  cases h with
  | plain hquote hslash hcontrol =>
    have hlow : ¬ x.toNat < 0x20 := by omega
    unfold stringPart
    rw [Cursor.peek?_of_rest hc]
    simp only [hquote, hslash, hlow, if_false]
    exact ⟨Cursor.rest_eat hc, rfl⟩
  | @short y hy =>
    have hrest := Cursor.rest_eat hc
    unfold stringPart
    rw [Cursor.peek?_of_rest hc]
    simp only [escape, Cursor.peek?_of_rest hrest, simpleEscape?_of_mem hy]
    exact ⟨Cursor.rest_eat hrest, rfl⟩
  | unit h =>
    have hrest := Cursor.rest_eat hc
    have hescape := gives_numericEscape_unit h (Cursor.rest_eat hrest)
    unfold stringPart
    rw [Cursor.peek?_of_rest hc]
    simp only [escape, Cursor.peek?_of_rest hrest]
    refine hescape.bind ?_
    rintro y c' hc' rfl
    exact ⟨hc', rfl⟩
  -- Two escapes that stand for one character beyond the first plane.
  | @pair ds ds' hx h h' =>
    have hwhole : c.rest = '\\' :: 'u' :: (ds ++ ('\\' :: 'u' :: (ds' ++ rest))) := by
      rw [hc]
      simp
    have hrest := Cursor.rest_eat hwhole
    obtain ⟨hleading, htrailing, hpaired⟩ := paired_halves hx
    have hescape := gives_numericEscape_pair hleading htrailing h h' (Cursor.rest_eat hrest)
    rw [hpaired] at hescape
    unfold stringPart
    rw [Cursor.peek?_of_rest hwhole]
    simp only [escape, Cursor.peek?_of_rest hrest]
    refine hescape.bind ?_
    rintro y c' hc' rfl
    exact ⟨hc', rfl⟩

theorem gives_stringParts {cs text : List Char} (h : Spelled cs text) :
    ∀ (fuel : Nat) (c : Cursor), c.rest = text ++ '"' :: rest → cs.length < fuel →
      Gives (stringParts fuel c) rest (· = cs) False := by
  induction h with
  | nil =>
    intro fuel c hc hfuel
    cases fuel with
    | zero => exact absurd hfuel (Nat.not_lt_zero _)
    | succ fuel =>
      unfold stringParts stringPart
      rw [Cursor.peek?_of_rest hc]
      exact ⟨Cursor.rest_eat hc, rfl⟩
  | @cons x letter cs text hletter _ ih =>
    intro fuel c hc hfuel
    cases fuel with
    | zero => exact absurd hfuel (Nat.not_lt_zero _)
    | succ fuel =>
      rw [List.append_assoc] at hc
      refine (gives_stringPart hletter hc).bind ?_
      rintro part c' hc' rfl
      refine (ih fuel c' hc' (Nat.lt_of_succ_lt_succ hfuel)).bind ?_
      rintro cs' c'' hc'' rfl
      exact ⟨hc'', rfl⟩

theorem IsLetter.length_pos {x : Char} {letter : List Char} (h : IsLetter x letter) :
    0 < letter.length := by
  cases h <;> exact Nat.succ_pos _

theorem Spelled.length_le {cs text : List Char} (h : Spelled cs text) :
    cs.length ≤ text.length := by
  induction h with
  | nil => exact Nat.le_refl _
  | cons hletter _ ih =>
    have := hletter.length_pos
    simp only [List.length_cons, List.length_append]
    omega

/-- A string is read as it is spelled. -/
theorem gives_readString {s : String} {text : List Char} (h : Spelled s.toList text)
    (hc : c.rest = text ++ '"' :: rest) : Gives (readString c) rest (· = s) False := by
  have hfuel : s.toList.length < c.rest.length + 1 := by
    have := h.length_le
    rw [hc, List.length_append]
    omega
  refine (gives_stringParts h _ c hc hfuel).bind ?_
  rintro cs c' hc' rfl
  exact ⟨hc', String.ofList_toList⟩

/-! ### Skipping -/

/-- A numeric escape is skipped, whatever comes after its four digits. -/
theorem skipStringParts_unit {n : Nat} {ds : List Char} (fuel : Nat) (h : IsUnit n ds)
    (hc : c.rest = '\\' :: 'u' :: (ds ++ rest)) :
    ∃ c', c'.rest = rest ∧ skipStringParts (fuel + 1) c = skipStringParts fuel c' := by
  have hrest := Cursor.rest_eat hc
  obtain ⟨a, c', hunit, hc', -⟩ := (gives_unit h (Cursor.rest_eat hrest)).exists_ok
  refine ⟨c', hc', ?_⟩
  have hskip : skipEscape c.eat = .ok c' := by
    unfold skipEscape
    rw [Cursor.peek?_of_rest hrest]
    simp only [hunit]
    rfl
  rw [skipStringParts, Cursor.peek?_of_rest hc]
  simp only [hskip]
  rfl

/-- A character is skipped as it is written, in a step or two. -/
theorem skipStringParts_letter {x : Char} {letter : List Char} (h : IsLetter x letter)
    (hc : c.rest = letter ++ rest) {fuel : Nat} (hfuel : c.rest.length < fuel) :
    ∃ c' fuel', c'.rest = rest ∧ rest.length < fuel' ∧
      skipStringParts fuel c = skipStringParts fuel' c' := by
  rw [hc, List.length_append] at hfuel
  obtain ⟨fuel, rfl⟩ : ∃ k, fuel = k + 1 := ⟨fuel - 1, by omega⟩
  cases h with
  | plain hquote hslash hcontrol =>
    have hlow : ¬ x.toNat < 0x20 := by omega
    refine ⟨c.eat, fuel, Cursor.rest_eat hc, ?_, ?_⟩
    · simp only [List.length_singleton] at hfuel
      omega
    · rw [skipStringParts, Cursor.peek?_of_rest hc]
      simp only [hquote, hslash, hlow, if_false]
  | @short y hy =>
    have hrest := Cursor.rest_eat hc
    refine ⟨c.eat.eat, fuel, Cursor.rest_eat hrest, ?_, ?_⟩
    · simp only [List.length_cons] at hfuel
      omega
    · have hskip : skipEscape c.eat = .ok c.eat.eat := by
        unfold skipEscape
        rw [Cursor.peek?_of_rest hrest]
        simp [simpleEscape?_of_mem hy]
      rw [skipStringParts, Cursor.peek?_of_rest hc]
      simp only [hskip]
      rfl
  | unit h =>
    obtain ⟨c', hc', hskip⟩ := skipStringParts_unit fuel h hc
    refine ⟨c', fuel, hc', ?_, hskip⟩
    simp only [List.length_cons] at hfuel
    omega
  | @pair ds ds' hx h h' =>
    -- The two halves are skipped one after the other.
    simp only [List.length_cons, List.length_append] at hfuel
    obtain ⟨fuel, rfl⟩ : ∃ k, fuel = k + 1 := ⟨fuel - 1, by omega⟩
    have hwhole : c.rest = '\\' :: 'u' :: (ds ++ ('\\' :: 'u' :: (ds' ++ rest))) := by
      rw [hc]
      simp
    obtain ⟨c₁, hc₁, hskip₁⟩ := skipStringParts_unit (fuel + 1) h hwhole
    obtain ⟨c₂, hc₂, hskip₂⟩ := skipStringParts_unit fuel h' hc₁
    refine ⟨c₂, fuel, hc₂, ?_, hskip₁.trans hskip₂⟩
    omega

theorem passes_skipStringParts {cs text : List Char} (h : Spelled cs text) :
    ∀ (fuel : Nat) (c : Cursor), c.rest = text ++ '"' :: rest → c.rest.length < fuel →
      Passes (skipStringParts fuel c) rest := by
  induction h with
  | nil =>
    intro fuel c hc hfuel
    cases fuel with
    | zero => exact absurd hfuel (Nat.not_lt_zero _)
    | succ fuel =>
      rw [skipStringParts, Cursor.peek?_of_rest hc]
      exact ⟨c.eat, rfl, Cursor.rest_eat hc⟩
  | @cons x letter cs text hletter _ ih =>
    intro fuel c hc hfuel
    rw [List.append_assoc] at hc
    obtain ⟨c', fuel', hc', hfuel', hskip⟩ := skipStringParts_letter hletter hc hfuel
    rw [hskip]
    rw [← hc'] at hfuel'
    exact ih fuel' c' hc' hfuel'

/-- A string is skipped up to its end. -/
theorem passes_skipString {cs text : List Char} (h : Spelled cs text)
    (hc : c.rest = text ++ '"' :: rest) : Passes (skipString c) rest :=
  passes_skipStringParts h _ c hc (Nat.lt_succ_self _)

end CameraFeed.Json
