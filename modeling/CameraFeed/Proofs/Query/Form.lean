import CameraFeed.Proofs.Text.Lines
import CameraFeed.Proofs.Text.Utf8
import CameraFeed.Query.Form

/-! # Form — pairs are read back from their query

  A name or a value is written with letters, digits and a few marks, and neither `&` nor `=` is
  among them. So a query falls apart at these two signs just where it was put together, and the
  octets of each part come back one by one. -/

namespace CameraFeed.Query

open Text (joinWith)

/-! ### Characters of a query -/

/-- The character can be in a written name or value. -/
def isPartChar (c : Char) : Bool := c.isAlphanum || "*-._+%".toList.contains c

theorem isPartChar_iff {c : Char} :
    isPartChar c = true ↔ c.isAlphanum = true ∨ c ∈ "*-._+%".toList := by
  simp [isPartChar]

theorem ne_of_isPartChar {c d : Char} (hc : isPartChar c = true) (hd : isPartChar d = false) :
    c ≠ d := by
  rintro rfl
  rw [hc] at hd
  cases hd

theorem isPartChar_of_mem_writtenOctet {b : UInt8} {c : Char} (h : c ∈ writtenOctet b) :
    isPartChar c = true := by
  have hall : ∀ n < 256, (writtenOctet (UInt8.ofNat n)).all isPartChar = true := by decide +kernel
  have hb := hall b.toNat b.toNat_lt
  rw [UInt8.ofNat_toNat] at hb
  exact List.all_eq_true.mp hb c h

theorem isPartChar_of_mem_writtenPart {s : String} {c : Char} (h : c ∈ writtenPart s) :
    isPartChar c = true := by
  obtain ⟨b, -, hc⟩ := List.mem_flatMap.mp h
  exact isPartChar_of_mem_writtenOctet hc

/-- Names and values have no equals sign. -/
theorem equals_notMem_writtenPart (s : String) : '=' ∉ writtenPart s := by
  intro h
  exact ne_of_isPartChar (isPartChar_of_mem_writtenPart h) (by decide) rfl

/-! ### Names and values -/

/-- An octet of a part before the escaped ones are put in. -/
def spaced (b : UInt8) : UInt8 := if b.toNat = 0x2B then 0x20 else b

theorem partOctets_eq (cs : List Char) :
    partOctets cs = percentDecoded ((Text.Utf8.encode cs).map spaced) := rfl

theorem percentDecoded_cons_of_ne {b : UInt8} (h : b ≠ percentSign) (bs : List UInt8) :
    percentDecoded (b :: bs) = b :: percentDecoded bs := by
  rw [percentDecoded.eq_def]
  exact if_neg h

/-- Two digits after a percent sign are an octet. -/
theorem percentDecoded_escaped {high low : UInt8} {h l : Nat} (hhigh : octetHex? high = some h)
    (hlow : octetHex? low = some l) (bs : List UInt8) :
    percentDecoded (percentSign :: high :: low :: bs)
      = UInt8.ofNat (16 * h + l) :: percentDecoded bs := by
  rw [percentDecoded, if_pos rfl]
  simp only [hhigh, hlow]

/-- A hexadecimal digit is read back as its value. -/
theorem octetHex?_upperHex {n : Nat} (h : n < 16) :
    (upperHex n).toNat ≤ 0x7F ∧
      octetHex? (spaced (UInt8.ofNat (upperHex n).toNat)) = some n := by
  have hall : ∀ n < 16, (upperHex n).toNat ≤ 0x7F ∧
      octetHex? (spaced (UInt8.ofNat (upperHex n).toNat)) = some n := by decide
  exact hall n h

theorem partOctets_escapedOctet (b : UInt8) (cs : List Char) :
    partOctets (escapedOctet b ++ cs) = b :: partOctets cs := by
  have hb := b.toNat_lt
  obtain ⟨hhigh, hhex⟩ := octetHex?_upperHex (n := b.toNat / 16) (by omega)
  obtain ⟨hlow, hhex'⟩ := octetHex?_upperHex (n := b.toNat % 16) (Nat.mod_lt _ (by decide))
  have hsign : spaced (UInt8.ofNat '%'.toNat) = percentSign := by decide
  have hdigits : 16 * (b.toNat / 16) + b.toNat % 16 = b.toNat := by omega
  simp only [escapedOctet, List.cons_append, List.nil_append, partOctets_eq]
  rw [Text.Utf8.encode_cons_of_one (by decide), Text.Utf8.encode_cons_of_one hhigh,
    Text.Utf8.encode_cons_of_one hlow, List.map_cons, List.map_cons, List.map_cons, hsign,
    percentDecoded_escaped hhex hhex', hdigits, UInt8.ofNat_toNat]

/-- An octet comes back from what was written for it. -/
theorem partOctets_writtenOctet (b : UInt8) (cs : List Char) :
    partOctets (writtenOctet b ++ cs) = b :: partOctets cs := by
  unfold writtenOctet
  by_cases hitself : standsForItself b = true
  -- Neither of the two signs that a reader takes for something else stands for itself.
  · have hascii : b.toNat ≤ 0x7F ∧ b.toNat ≠ 0x2B ∧ b.toNat ≠ 0x25 := by
      simp [standsForItself] at hitself
      omega
    obtain ⟨hlow, hplus, hpercent⟩ := hascii
    have hchar : (Char.ofNat b.toNat).toNat = b.toNat := by
      have hall : ∀ n < 0x80, (Char.ofNat n).toNat = n := by decide
      exact hall b.toNat (by omega)
    have hspaced : spaced b = b := if_neg hplus
    have hne : b ≠ percentSign := by
      rintro rfl
      exact hpercent rfl
    rw [if_pos hitself, List.singleton_append, partOctets_eq,
      Text.Utf8.encode_cons_of_one (hchar.symm ▸ hlow), hchar, UInt8.ofNat_toNat, List.map_cons,
      hspaced, percentDecoded_cons_of_ne hne]
    rfl
  rw [if_neg hitself]
  -- The plus sign becomes a space before the percent signs are looked at, so it is read as one.
  by_cases hspace : b.toNat = 0x20
  · have hb : spaced (UInt8.ofNat '+'.toNat) = b := by
      rw [← UInt8.ofNat_toNat (x := b), hspace]
      rfl
    have hne : b ≠ percentSign := by
      rintro rfl
      cases hspace
    rw [if_pos hspace, List.singleton_append, partOctets_eq,
      Text.Utf8.encode_cons_of_one (by decide), List.map_cons, hb, percentDecoded_cons_of_ne hne]
    rfl
  · rw [if_neg hspace]
    exact partOctets_escapedOctet b cs

/-- A name or a value is read back from what was written. -/
theorem partOf_writtenPart (s : String) : partOf (writtenPart s) = s := by
  have hoctets : ∀ bs : List UInt8, partOctets (bs.flatMap writtenOctet) = bs := by
    intro bs
    induction bs with
    | nil => rfl
    | cons b bs ih => rw [List.flatMap_cons, partOctets_writtenOctet, ih]
  rw [partOf, writtenPart, hoctets, Text.Utf8.text, Text.Utf8.octets, Text.Utf8.decode_encode,
    String.ofList_toList]

/-! ### Pairs -/

theorem pairOf_writtenPair (p : Pair) : pairOf (writtenPair p) = p := by
  have hname : ∀ c ∈ writtenPart p.1, (c != '=') = true := by
    intro c hc
    rw [bne_iff_ne]
    rintro rfl
    exact equals_notMem_writtenPart p.1 hc
  have htake : (writtenPair p).takeWhile (· != '=') = writtenPart p.1 := by
    rw [writtenPair, List.takeWhile_append_of_pos hname]
    simp
  have hdrop : (writtenPair p).dropWhile (· != '=') = '=' :: writtenPart p.2 := by
    rw [writtenPair, List.dropWhile_append_of_pos hname]
    simp
  rw [pairOf, htake, hdrop, List.drop_one, List.tail_cons, partOf_writtenPart, partOf_writtenPart]

/-- A written pair has an equals sign, and otherwise what names and values have. -/
theorem mem_writtenPair {p : Pair} {c : Char} (h : c ∈ writtenPair p) :
    isPartChar c = true ∨ c = '=' := by
  rcases List.mem_append.mp h with hname | hvalue
  · exact .inl (isPartChar_of_mem_writtenPart hname)
  rcases List.mem_cons.mp hvalue with rfl | hvalue
  · exact .inr rfl
  · exact .inl (isPartChar_of_mem_writtenPart hvalue)

theorem writtenPair_ne_nil (p : Pair) : writtenPair p ≠ [] := by simp [writtenPair]

/-! ### Queries -/

theorem written_eq_joinWith (ps : List Pair) :
    written ps = joinWith ['&'] (ps.map writtenPair) := by
  induction ps with
  | nil => rfl
  | cons p rest ih =>
    cases rest with
    | nil => rfl
    | cons next rest =>
      rw [written, ih, List.map_cons, List.map_cons, List.map_cons, Text.joinWith_cons_cons]
      · simp
      · simp

/-- The pairs are read back from the query that was written. -/
theorem pairs_written (ps : List Pair) : pairs (written ps) = ps := by
  by_cases hps : ps = []
  · rw [hps]
    rfl
  have hamp : ∀ part ∈ ps.map writtenPair, '&' ∉ part := by
    intro part hpart hmem
    obtain ⟨p, -, rfl⟩ := List.mem_map.mp hpart
    rcases mem_writtenPair hmem with hpart | hequals
    · exact ne_of_isPartChar hpart (by decide) rfl
    · cases hequals
  -- Even a pair of two empty texts is written with a character, so the reader skips none.
  have hkept : ∀ part ∈ ps.map writtenPair, (!part.isEmpty) = true := by
    intro part hpart
    obtain ⟨p, -, rfl⟩ := List.mem_map.mp hpart
    simp [writtenPair_ne_nil]
  have hread : (ps.map writtenPair).map pairOf = ps := by
    have hpairs : ∀ p ∈ ps, (pairOf ∘ writtenPair) p = id p := fun p _ => pairOf_writtenPair p
    rw [List.map_map, List.map_congr_left hpairs, List.map_id]
  rw [pairs, written_eq_joinWith, Text.pieces_joinWith hamp (by simpa using hps),
    List.filter_eq_self.mpr hkept, hread]

/-- The pairs of two queries with `&` between them, whatever the queries are. -/
theorem pairs_append (cs more : List Char) :
    pairs (cs ++ '&' :: more) = pairs cs ++ pairs more := by
  have hpieces : Text.pieces (· == '&') (cs ++ '&' :: more)
      = Text.pieces (· == '&') cs ++ Text.pieces (· == '&') more :=
    Text.pieces_append (by decide) cs more
  simp only [pairs, hpieces, List.filter_append, List.map_append]

/-- The characters of a query. -/
theorem mem_written {ps : List Pair} {c : Char} (h : c ∈ written ps) :
    c.isAlphanum = true ∨ c ∈ "*-._+%&=".toList := by
  have hpair : ∀ p : Pair, c ∈ writtenPair p →
      c.isAlphanum = true ∨ c ∈ "*-._+%&=".toList := by
    intro p hp
    rcases mem_writtenPair hp with hpart | rfl
    · refine (isPartChar_iff.mp hpart).imp_right fun hmark => ?_
      have hmarks : "*-._+%&=".toList = "*-._+%".toList ++ ['&', '='] := rfl
      rw [hmarks]
      exact List.mem_append_left _ hmark
    · exact .inr (by decide)
  induction ps with
  | nil => cases h
  | cons p rest ih =>
    cases rest with
    | nil => exact hpair p h
    | cons next rest =>
      rcases List.mem_append.mp h with hp | hrest
      · exact hpair p hp
      rcases List.mem_cons.mp hrest with rfl | hrest
      · exact .inr (by decide)
      · exact ih hrest

/-- A query begins with the name of its first pair. -/
theorem exists_written_cons (p : Pair) (rest : List Pair) :
    ∃ more, written (p :: rest) = writtenPart p.1 ++ '=' :: more := by
  cases rest with
  | nil => exact ⟨writtenPart p.2, rfl⟩
  | cons next rest =>
    refine ⟨writtenPart p.2 ++ '&' :: written (next :: rest), ?_⟩
    simp [written, writtenPair]

/-- Queries have no white space. -/
theorem isBlank_of_mem_written {ps : List Pair} {c : Char} (h : c ∈ written ps) :
    Text.isBlank c = false := by
  rcases mem_written h with halphanum | hmark
  · have hrange : 0x30 ≤ c.toNat ∧ c.toNat ≤ 0x7A := by
      delta Char.isAlphanum Char.isAlpha Char.isUpper Char.isLower Char.isDigit at halphanum
      simp [UInt32.le_iff_toNat_le] at halphanum
      have hval : c.toNat = c.val.toNat := rfl
      omega
    simp [Text.isBlank]
    omega
  · have hall : ("*-._+%&=".toList.all fun c => !Text.isBlank c) = true := by decide
    simpa using List.all_eq_true.mp hall c hmark

/-- Only the query of no pairs is empty. -/
theorem written_eq_nil_iff {ps : List Pair} : written ps = [] ↔ ps = [] := by
  refine ⟨fun h => ?_, fun h => h ▸ rfl⟩
  rw [← pairs_written ps, h]
  rfl

end CameraFeed.Query
