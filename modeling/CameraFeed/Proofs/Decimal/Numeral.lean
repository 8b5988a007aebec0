import CameraFeed.Decimal.Numeral
import CameraFeed.Proofs.Text.Words
import Mathlib.Algebra.Group.Nat.Defs

/-! # Numeral — numbers read back from their digits

  A number that is below the limit of a reader is read back from the text it is written as. What is
  read as a number is one or more digits that stand for it, and nothing else but a plus sign in
  front. -/

namespace CameraFeed.Decimal

theorem isDigit_eq (c : Char) : isDigit c = c.isDigit := by
  unfold isDigit Char.isDigit
  rfl

/-- A number is written as one or more digits. -/
theorem digits_ne_nil (n : Nat) : digits n ≠ [] := Nat.toDigits_ne_nil

theorem isDigit_of_mem_digits {n : Nat} {c : Char} (h : c ∈ digits n) : isDigit c = true := by
  rw [isDigit_eq]
  exact Nat.isDigit_of_mem_toDigits (by decide) (by decide) h

theorem isBlank_of_isDigit {c : Char} (h : isDigit c = true) : Text.isBlank c = false := by
  unfold isDigit at h
  unfold Text.isBlank
  simp only [Bool.and_eq_true, decide_eq_true_eq] at h
  simp only [Bool.or_eq_false_iff, Bool.and_eq_false_iff, decide_eq_false_iff_not,
    beq_eq_false_iff_ne]
  omega

/-- A number is written as one word. -/
theorem isWord_digits (n : Nat) : Text.IsWord (digits n) where
  ne_nil := digits_ne_nil n
  notBlank := fun _ hc => isBlank_of_isDigit (isDigit_of_mem_digits hc)

/-- The digits of a number stand for it. -/
theorem value_digits (n : Nat) : value (digits n) = n :=
  Nat.ofDigitChars_toDigits (by decide) (by decide)

@[simp] theorem toList_text (n : Nat) : (text n).toList = digits n := String.toList_ofList

/-- Different numbers have different texts. -/
theorem eq_of_text_eq {m n : Nat} (h : text m = text n) : m = n := by
  have hdigits : digits m = digits n := by
    rw [← toList_text, ← toList_text, h]
  rw [← value_digits m, hdigits, value_digits]

/-- The text of a number has digits only. -/
theorem text_ne {n : Nat} {s : String} {c : Char} (hc : c ∈ s.toList)
    (hother : isDigit c = false) : text n ≠ s := by
  rintro rfl
  rw [toList_text] at hc
  rw [isDigit_of_mem_digits hc] at hother
  cases hother

theorem read?_digits {limit n : Nat} (h : n < limit) : read? limit (digits n) = some n := by
  have hall : (digits n).all isDigit = true := List.all_eq_true.mpr fun _ => isDigit_of_mem_digits
  unfold read?
  rw [value_digits, if_pos ⟨digits_ne_nil n, hall, h⟩]

/-- No number is written with a plus sign in front. -/
theorem readPlus?_digits {limit n : Nat} (h : n < limit) :
    readPlus? limit (digits n) = some n := by
  unfold readPlus?
  split
  · rename_i cs hplus
    have hmem : '+' ∈ digits n := by simp [hplus]
    exact absurd (isDigit_of_mem_digits hmem) (by decide)
  · exact read?_digits h

/-! ### What is read as a number -/

/-- One or more digits that stand for a number. -/
structure IsNumeral (ds : List Char) (n : Nat) : Prop where
  ne_nil : ds ≠ []
  digits : ∀ d ∈ ds, isDigit d = true
  value_eq : value ds = n

theorem read?_eq_some_iff {limit n : Nat} {cs : List Char} :
    read? limit cs = some n ↔ IsNumeral cs n ∧ n < limit := by
  unfold read?
  constructor
  · intro h
    split at h
    · rename_i hread
      obtain rfl := Option.some.inj h
      exact ⟨⟨hread.1, List.all_eq_true.mp hread.2.1, rfl⟩, hread.2.2⟩
    · cases h
  · rintro ⟨⟨hne, hdigits, rfl⟩, hlimit⟩
    rw [if_pos ⟨hne, List.all_eq_true.mpr hdigits, hlimit⟩]

/-- A plus sign may stand in front of a number, but it is none itself. -/
theorem readPlus?_eq_some_iff {limit n : Nat} {cs : List Char} :
    readPlus? limit cs = some n ↔
      ∃ ds, (cs = ds ∨ cs = '+' :: ds) ∧ IsNumeral ds n ∧ n < limit := by
  have hplus : ∀ ds, ¬IsNumeral ('+' :: ds) n := by
    intro ds h
    exact absurd (h.digits '+' List.mem_cons_self) (by decide)
  unfold readPlus?
  split
  · rename_i cs
    rw [read?_eq_some_iff]
    constructor
    · intro h
      exact ⟨cs, .inr rfl, h⟩
    · rintro ⟨ds, rfl | heq, h⟩
      · exact absurd h.1 (hplus cs)
      · obtain rfl := (List.cons.inj heq).2
        exact h
  · rename_i hnone
    rw [read?_eq_some_iff]
    constructor
    · intro h
      exact ⟨cs, .inl rfl, h⟩
    · rintro ⟨ds, rfl | rfl, h⟩
      · exact h
      · exact absurd rfl (hnone ds)

/-! ### Numbers of a fixed width -/

/-- A number with few enough digits is as wide as it is asked to be. -/
theorem length_padded {width n : Nat} (hwidth : 0 < width) (h : n < 10 ^ width) :
    (padded width n).length = width := by
  have hle : (digits n).length ≤ width := (Nat.length_toDigits_le_iff (by decide) hwidth).mpr h
  unfold padded
  rw [List.length_append, List.length_replicate]
  omega

theorem isDigit_of_mem_padded {width n : Nat} {c : Char} (h : c ∈ padded width n) :
    isDigit c = true := by
  rcases List.mem_append.mp h with h | h
  · rw [List.eq_of_mem_replicate h]
    rfl
  · exact isDigit_of_mem_digits h

/-- Zeros in front do not count. -/
theorem value_padded (width n : Nat) : value (padded width n) = n := by
  have hzeros : value (List.replicate (width - (digits n).length) '0') = 0 := by
    show Nat.ofDigitChars 10 _ 0 = 0
    rw [Nat.ofDigitChars_replicate_zero, Nat.mul_zero]
  show List.foldl _ 0 (_ ++ digits n) = n
  rw [List.foldl_append]
  show List.foldl _ (value _) (digits n) = n
  rw [hzeros]
  exact value_digits n

end CameraFeed.Decimal
