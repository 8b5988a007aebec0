import CameraFeed.Text.Utf8

/-! # Utf8 — decoding encoded texts

  The decoder gives back every text from its octets. An octet below `0x80` is one character and part
  of no other, so lines can be found before a text is decoded. -/

namespace CameraFeed.Text.Utf8

/-! ### Steps of the reader -/

section steps
variable {b : UInt8} {bs : List UInt8} {low high value : Nat}

/-- The last octet of a character. -/
theorem decodeFrom_last (hlow : low ≤ b.toNat) (hhigh : b.toNat ≤ high) :
    decodeFrom (.inside 1 low high value) (b :: bs)
      = Char.ofNat (value * 64 + (b.toNat - 0x80)) :: decodeFrom .start bs := by
  simp [decodeFrom, step, hlow, hhigh]

/-- An octet inside a character. -/
theorem decodeFrom_inner {n : Nat} (hlow : low ≤ b.toNat) (hhigh : b.toNat ≤ high) :
    decodeFrom (.inside (n + 2) low high value) (b :: bs)
      = decodeFrom (.inside (n + 1) 0x80 0xBF (value * 64 + (b.toNat - 0x80))) bs := by
  simp [decodeFrom, step, hlow, hhigh]

/-- The only octet of a character. -/
theorem decodeFrom_only (h : b.toNat ≤ 0x7F) :
    decodeFrom .start (b :: bs) = Char.ofNat b.toNat :: decodeFrom .start bs := by
  simp [decodeFrom, step, first, h]

/-- The first of two octets. -/
theorem decodeFrom_two (hlow : 0xC2 ≤ b.toNat) (hhigh : b.toNat ≤ 0xDF) :
    decodeFrom .start (b :: bs) = decodeFrom (.inside 1 0x80 0xBF (b.toNat - 0xC0)) bs := by
  have hfirst : first b = ([], .inside 1 0x80 0xBF (b.toNat - 0xC0)) := by
    unfold first
    dsimp only
    rw [if_neg (by omega), if_neg (by omega), if_pos hhigh]
  simp [decodeFrom, step, hfirst]

/-- The first of three octets. It narrows the range of the second one at both ends. -/
theorem decodeFrom_three (hlow : 0xE0 ≤ b.toNat) (hhigh : b.toNat ≤ 0xEF) :
    decodeFrom .start (b :: bs)
      = decodeFrom (.inside 2 (if b.toNat = 0xE0 then 0xA0 else 0x80)
          (if b.toNat = 0xED then 0x9F else 0xBF) (b.toNat - 0xE0)) bs := by
  have hfirst : first b = ([], .inside 2 (if b.toNat = 0xE0 then 0xA0 else 0x80)
      (if b.toNat = 0xED then 0x9F else 0xBF) (b.toNat - 0xE0)) := by
    unfold first
    dsimp only
    rw [if_neg (by omega), if_neg (by omega), if_neg (by omega)]
    by_cases h0 : b.toNat = 0xE0
    · simp [h0]
    by_cases hD : b.toNat = 0xED
    · simp [hD]
    rw [if_neg h0, if_neg hD, if_pos hhigh, if_neg h0, if_neg hD]
  simp [decodeFrom, step, hfirst]

/-- The first of four octets. It narrows the range of the second one at both ends. -/
theorem decodeFrom_four (hlow : 0xF0 ≤ b.toNat) (hhigh : b.toNat ≤ 0xF4) :
    decodeFrom .start (b :: bs)
      = decodeFrom (.inside 3 (if b.toNat = 0xF0 then 0x90 else 0x80)
          (if b.toNat = 0xF4 then 0x8F else 0xBF) (b.toNat - 0xF0)) bs := by
  have hfirst : first b = ([], .inside 3 (if b.toNat = 0xF0 then 0x90 else 0x80)
      (if b.toNat = 0xF4 then 0x8F else 0xBF) (b.toNat - 0xF0)) := by
    unfold first
    dsimp only
    rw [if_neg (by omega), if_neg (by omega), if_neg (by omega), if_neg (by omega),
      if_neg (by omega), if_neg (by omega)]
    by_cases h0 : b.toNat = 0xF0
    · simp [h0]
    by_cases h4 : b.toNat = 0xF4
    · simp [h4]
    rw [if_neg h0, if_pos (by omega), if_neg h0, if_neg h4]
  simp [decodeFrom, step, hfirst]

end steps

/-! ### Octets of characters -/

theorem toNat_ofNat_of_lt {n : Nat} (h : n < 256) : (UInt8.ofNat n).toNat = n := by
  rw [UInt8.toNat_ofNat', Nat.mod_eq_of_lt h]

theorem encodeChar_of_one {c : Char} (h : c.toNat ≤ 0x7F) :
    String.utf8EncodeChar c = [UInt8.ofNat c.toNat] :=
  if_pos h

theorem encodeChar_of_two {c : Char} (h1 : 0x7F < c.toNat) (h2 : c.toNat ≤ 0x7FF) :
    String.utf8EncodeChar c
      = [UInt8.ofNat (c.toNat / 64 % 0x20 + 0xC0), UInt8.ofNat (c.toNat % 0x40 + 0x80)] :=
  (if_neg (Nat.not_le.mpr h1)).trans (if_pos h2)

theorem encodeChar_of_three {c : Char} (h2 : 0x7FF < c.toNat) (h3 : c.toNat ≤ 0xFFFF) :
    String.utf8EncodeChar c
      = [UInt8.ofNat (c.toNat / 4096 % 0x10 + 0xE0), UInt8.ofNat (c.toNat / 64 % 0x40 + 0x80),
          UInt8.ofNat (c.toNat % 0x40 + 0x80)] :=
  (if_neg (Nat.not_le.mpr (Nat.lt_trans (by decide) h2))).trans
    ((if_neg (Nat.not_le.mpr h2)).trans (if_pos h3))

theorem encodeChar_of_four {c : Char} (h3 : 0xFFFF < c.toNat) :
    String.utf8EncodeChar c
      = [UInt8.ofNat (c.toNat / 262144 % 0x08 + 0xF0), UInt8.ofNat (c.toNat / 4096 % 0x40 + 0x80),
          UInt8.ofNat (c.toNat / 64 % 0x40 + 0x80), UInt8.ofNat (c.toNat % 0x40 + 0x80)] :=
  (if_neg (Nat.not_le.mpr (Nat.lt_trans (by decide) h3))).trans
    ((if_neg (Nat.not_le.mpr (Nat.lt_trans (by decide) h3))).trans
      (if_neg (Nat.not_le.mpr h3)))

/-- The code points there are. -/
theorem toNat_valid (c : Char) : c.toNat < 0xD800 ∨ 0xDFFF < c.toNat ∧ c.toNat < 0x110000 :=
  c.valid

/-! ### Reading what was written -/

/-- An octet after the first one of a character has six bits of it. -/
theorem toNat_inner (n : Nat) : (UInt8.ofNat (n % 0x40 + 0x80)).toNat = n % 0x40 + 0x80 :=
  toNat_ofNat_of_lt (by omega)

/-- A character is read back from its octets. -/
theorem decodeFrom_encodeChar (c : Char) (bs : List UInt8) :
    decodeFrom .start (String.utf8EncodeChar c ++ bs) = c :: decodeFrom .start bs := by
  have hvalid := toNat_valid c
  have hc : Char.ofNat c.toNat = c := Char.ofNat_toNat c
  -- By the number of octets. What they have of the code point is put together again.
  by_cases h1 : c.toNat ≤ 0x7F
  · have hb := toNat_ofNat_of_lt (n := c.toNat) (by omega)
    rw [encodeChar_of_one h1, List.singleton_append, decodeFrom_only (by omega), hb, hc]
  by_cases h2 : c.toNat ≤ 0x7FF
  · have hb1 := toNat_ofNat_of_lt (n := c.toNat / 64 % 0x20 + 0xC0) (by omega)
    have hb2 := toNat_inner c.toNat
    rw [encodeChar_of_two (by omega) h2, List.cons_append, List.singleton_append,
      decodeFrom_two (by omega) (by omega), decodeFrom_last (by omega) (by omega), hb1, hb2,
      show (c.toNat / 64 % 0x20 + 0xC0 - 0xC0) * 64 + (c.toNat % 0x40 + 0x80 - 0x80) = c.toNat
        from by omega, hc]
  by_cases h3 : c.toNat ≤ 0xFFFF
  · have hb1 := toNat_ofNat_of_lt (n := c.toNat / 4096 % 0x10 + 0xE0) (by omega)
    have hb2 := toNat_inner (c.toNat / 64)
    have hb3 := toNat_inner c.toNat
    rw [encodeChar_of_three (by omega) h3, List.cons_append, List.cons_append,
      List.singleton_append, decodeFrom_three (by omega) (by omega),
      decodeFrom_inner (n := 0) (by split <;> omega) (by split <;> omega),
      decodeFrom_last (by omega) (by omega), hb1, hb2, hb3,
      show ((c.toNat / 4096 % 0x10 + 0xE0 - 0xE0) * 64 + (c.toNat / 64 % 0x40 + 0x80 - 0x80)) * 64
        + (c.toNat % 0x40 + 0x80 - 0x80) = c.toNat from by omega, hc]
  · have hb1 := toNat_ofNat_of_lt (n := c.toNat / 262144 % 0x08 + 0xF0) (by omega)
    have hb2 := toNat_inner (c.toNat / 4096)
    have hb3 := toNat_inner (c.toNat / 64)
    have hb4 := toNat_inner c.toNat
    rw [encodeChar_of_four (by omega), List.cons_append, List.cons_append, List.cons_append,
      List.singleton_append, decodeFrom_four (by omega) (by omega),
      decodeFrom_inner (n := 1) (by split <;> omega) (by split <;> omega),
      decodeFrom_inner (n := 0) (by omega) (by omega),
      decodeFrom_last (by omega) (by omega), hb1, hb2, hb3, hb4,
      show (((c.toNat / 262144 % 0x08 + 0xF0 - 0xF0) * 64 + (c.toNat / 4096 % 0x40 + 0x80 - 0x80))
        * 64 + (c.toNat / 64 % 0x40 + 0x80 - 0x80)) * 64 + (c.toNat % 0x40 + 0x80 - 0x80)
        = c.toNat from by omega, hc]

/-- A text is read back from its octets. -/
theorem decode_encode (cs : List Char) : decode (encode cs) = cs := by
  induction cs with
  | nil => rfl
  | cons c cs ih =>
    rw [decode, encode, List.flatMap_cons, decodeFrom_encodeChar]
    exact congrArg (c :: ·) ih

/-! ### Octets that are characters -/

/-- An octet below `0x80` is the only one of its character. -/
theorem eq_of_mem_encodeChar {c : Char} {b : UInt8} (hb : b.toNat < 0x80)
    (h : b ∈ String.utf8EncodeChar c) : c.toNat = b.toNat := by
  have hvalid := toNat_valid c
  -- All octets of a longer character are from `0x80` on.
  have hhigh : ∀ n, 0x80 ≤ n → n < 256 → b ≠ UInt8.ofNat n := by
    rintro n hn hlt rfl
    rw [toNat_ofNat_of_lt hlt] at hb
    omega
  by_cases h1 : c.toNat ≤ 0x7F
  · rw [encodeChar_of_one h1, List.mem_singleton] at h
    rw [h, toNat_ofNat_of_lt (by omega)]
  by_cases h2 : c.toNat ≤ 0x7FF
  · rw [encodeChar_of_two (by omega) h2] at h
    simp only [List.mem_cons, List.not_mem_nil, or_false] at h
    rcases h with h | h <;> exact absurd h (hhigh _ (by omega) (by omega))
  by_cases h3 : c.toNat ≤ 0xFFFF
  · rw [encodeChar_of_three (by omega) h3] at h
    simp only [List.mem_cons, List.not_mem_nil, or_false] at h
    rcases h with h | h | h <;> exact absurd h (hhigh _ (by omega) (by omega))
  · rw [encodeChar_of_four (by omega)] at h
    simp only [List.mem_cons, List.not_mem_nil, or_false] at h
    rcases h with h | h | h | h <;> exact absurd h (hhigh _ (by omega) (by omega))

/-- An octet below `0x80` comes from its character. -/
theorem mem_of_mem_encode {cs : List Char} {b : UInt8} (hb : b.toNat < 0x80)
    (h : b ∈ encode cs) : Char.ofNat b.toNat ∈ cs := by
  obtain ⟨c, hc, hmem⟩ := List.mem_flatMap.mp h
  rw [← eq_of_mem_encodeChar hb hmem, Char.ofNat_toNat]
  exact hc

/-- A character of one octet comes first. -/
theorem encode_cons_of_one {c : Char} (h : c.toNat ≤ 0x7F) (cs : List Char) :
    encode (c :: cs) = UInt8.ofNat c.toNat :: encode cs := by
  rw [encode, List.flatMap_cons, encodeChar_of_one h]
  rfl

@[simp] theorem encode_append (cs ds : List Char) : encode (cs ++ ds) = encode cs ++ encode ds :=
  List.flatMap_append

/-- Only the empty text has no octets. -/
theorem encode_eq_nil_iff {cs : List Char} : encode cs = [] ↔ cs = [] := by
  cases cs with
  | nil => simp [encode]
  | cons c cs => simp [encode, String.utf8EncodeChar_ne_nil]

end CameraFeed.Text.Utf8
