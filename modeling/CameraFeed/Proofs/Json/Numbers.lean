import CameraFeed.Json.Numbers
import CameraFeed.Proofs.Decimal.Numeral
import CameraFeed.Proofs.Json.Cursor

/-! # Numbers — whole numbers are read as they are written

  A whole number of 64 bits is read back from its digits. Of any other number it is only said here
  that reading it goes up to its end, unless the number is too large. -/

namespace CameraFeed.Json

variable {c : Cursor} {rest : List Char}

/-! ### Digits -/

/-- The text does not begin with a digit. -/
def NoDigit (cs : List Char) : Prop := ∀ x ∈ cs.head?, x.isDigit = false

theorem noDigit_cons {x : Char} {cs : List Char} (h : x.isDigit = false) : NoDigit (x :: cs) := by
  intro y hy
  cases hy
  exact h

/-- A text that may follow a value does not go on with a number. -/
theorem Ends.stops (h : Ends rest) :
    NoDigit rest ∧ ∀ x ∈ rest.head?, x ≠ '.' ∧ x ≠ 'e' ∧ x ≠ 'E' := by
  have hall : ∀ x ∈ [' ', '\n', '\t', '\r', ',', ']', '\x7d'],
      x.isDigit = false ∧ x ≠ '.' ∧ x ≠ 'e' ∧ x ≠ 'E' := by simp
  exact ⟨fun x hx => (hall x (h x hx)).1, fun x hx => (hall x (h x hx)).2⟩

theorem noDigit_point {point : List Char} (h : IsPoint point) (hrest : NoDigit rest) :
    NoDigit (point ++ rest) := by
  cases h with
  | none => exact hrest
  | digits _ => exact noDigit_cons (by decide)

theorem noDigit_exponent {exponent : List Char} (h : IsExponent exponent) (hrest : NoDigit rest) :
    NoDigit (exponent ++ rest) := by
  cases h with
  | none => exact hrest
  | digits hmark _ _ =>
    refine noDigit_cons ?_
    rcases hmark with rfl | rfl <;> decide

theorem digitsAt_of_rest {ds : List Char} (hds : ∀ d ∈ ds, d.isDigit = true) (hrest : NoDigit rest)
    (hc : c.rest = ds ++ rest) : digitsAt c = ds := by
  have hds' : ∀ d ∈ ds, Decimal.isDigit d = true := by
    intro d hd
    rw [Decimal.isDigit_eq]
    exact hds d hd
  unfold digitsAt
  rw [hc, List.takeWhile_append_of_pos hds']
  cases rest with
  | nil => simp
  | cons x rest =>
    have hx : Decimal.isDigit x = false := by
      rw [Decimal.isDigit_eq]
      exact hrest x rfl
    simp [hx]

theorem digitsAt_eq_nil (hrest : NoDigit rest) (hc : c.rest = rest) : digitsAt c = [] :=
  digitsAt_of_rest (by simp) hrest hc

theorem IsDigits.isEmpty {ds : List Char} (h : IsDigits ds) : ds.isEmpty = false := by
  simp [h.ne_nil]

/-! ### Whole numbers in digits -/

/-- Taking more digits makes a number no smaller. -/
theorem le_foldl_digits (n : Nat) (ds : List Char) :
    n ≤ ds.foldl (fun n d => 10 * n + Decimal.digitValue d) n := by
  induction ds generalizing n with
  | nil => exact Nat.le_refl n
  | cons d ds ih =>
    have hmore := ih (10 * n + Decimal.digitValue d)
    rw [List.foldl_cons]
    omega

/-- The digits of a number of 64 bits are all gathered. -/
theorem gather_eq (n : Nat) (ds : List Char)
    (h : ds.foldl (fun n d => 10 * n + Decimal.digitValue d) n < Decimal.wordLimit) :
    gather n ds = (ds.foldl (fun n d => 10 * n + Decimal.digitValue d) n, 0) := by
  induction ds generalizing n with
  | nil => rfl
  | cons d ds ih =>
    rw [List.foldl_cons] at h ⊢
    have hfits := Nat.lt_of_le_of_lt (le_foldl_digits _ ds) h
    rw [gather, if_pos hfits, ih _ h]

theorem gather_digits {k : Nat} (h : k < Decimal.wordLimit) :
    gather 0 (Decimal.digits k) = (k, 0) := by
  have hvalue : (Decimal.digits k).foldl (fun n d => 10 * n + Decimal.digitValue d) 0 = k :=
    Decimal.value_digits k
  rw [gather_eq 0 _ (by rw [hvalue]; exact h), hvalue]

/-- A number is written without zeros in front. -/
theorem isWhole_digits (k : Nat) : IsWhole (Decimal.digits k) := by
  rcases Nat.eq_zero_or_pos k with rfl | hpos
  · exact .zero
  · have hfirst : ∀ d ∈ (Decimal.digits k).head?, d ≠ '0' := by
      induction k using Nat.strongRecOn with
      | ind k ih =>
        by_cases hlow : k < 10
        · have hone : Decimal.digits k = [Nat.digitChar k] := Nat.toDigits_of_lt_base hlow
          have hall : ∀ n < 10, 0 < n → Nat.digitChar n ≠ '0' := by decide
          intro d hd
          rw [hone] at hd
          cases hd
          exact hall k hlow hpos
        · have hmore : Decimal.digits k = Decimal.digits (k / 10) ++ [Nat.digitChar (k % 10)] :=
            Nat.toDigits_of_base_le (by decide) (Nat.le_of_not_lt hlow)
          obtain ⟨x, xs, hx⟩ := List.exists_cons_of_ne_nil (Decimal.digits_ne_nil (k / 10))
          have hfirst := ih (k / 10) (by omega) (by omega)
          rw [hx] at hfirst
          intro d hd
          rw [hmore, hx] at hd
          exact hfirst d hd
    have hdigits : IsDigits (Decimal.digits k) := by
      refine ⟨Decimal.digits_ne_nil k, ?_⟩
      intro d hd
      rw [← Decimal.isDigit_eq]
      exact Decimal.isDigit_of_mem_digits hd
    obtain ⟨d, ds, hds⟩ := List.exists_cons_of_ne_nil (Decimal.digits_ne_nil k)
    rw [hds] at hfirst hdigits ⊢
    exact .digits (hfirst d rfl) hdigits

/-! ### Reading -/

theorem IsWhole.exists_cons {ds : List Char} (h : IsWhole ds) :
    ∃ d more, ds = d :: more ∧ d.isDigit = true := by
  cases h with
  | zero => exact ⟨_, _, rfl, by decide⟩
  | digits _ hdigits => exact ⟨_, _, rfl, hdigits.isDigit _ List.mem_cons_self⟩

/-- The cursor after the sign of a number. -/
theorem IsWhole.rest_minus {sign whole : List Char} (h : IsWhole whole) (hsign : sign ∈ [[], ['-']])
    (hc : c.rest = sign ++ (whole ++ rest)) :
    (if c.peek? = some '-' then c.eat else c).rest = whole ++ rest := by
  simp only [List.mem_cons, List.not_mem_nil, or_false] at hsign
  rcases hsign with rfl | rfl
  · obtain ⟨d, more, rfl, hd⟩ := h.exists_cons
    have hminus : d ≠ '-' := by
      rintro rfl
      exact absurd hd (by decide)
    rw [Cursor.peek?_of_rest hc, if_neg (by simp [hminus])]
    exact hc
  · rw [Cursor.peek?_of_rest hc, if_pos rfl]
    exact Cursor.rest_eat hc

/-- The text after the digits of a number does not begin with a point. -/
theorem IsExponent.noPoint {exponent : List Char} (h : IsExponent exponent)
    (hrest : ∀ x ∈ rest.head?, x ≠ '.' ∧ x ≠ 'e' ∧ x ≠ 'E') :
    ∀ x ∈ (exponent ++ rest).head?, x ≠ '.' := by
  intro x hx
  cases h with
  | none => exact (hrest x hx).1
  | digits hmark _ _ =>
    cases hx
    rcases hmark with rfl | rfl <;> decide

/-- The digits before the point are read up to their end, and those of a number of 64 bits as that
number. -/
theorem gives_wholeDigits {ds : List Char} (h : IsWhole ds) (hrest : NoDigit rest)
    (hc : c.rest = ds ++ rest) :
    Gives (wholeDigits c) rest
      (fun d => ∀ k, ds = Decimal.digits k → k < Decimal.wordLimit → d = ⟨k, 0, true⟩) False := by
  cases h with
  | zero =>
    have hnone : digitsAt c.eat = [] := digitsAt_eq_nil hrest (Cursor.rest_eat hc)
    unfold wholeDigits
    rw [Cursor.peek?_of_rest hc]
    simp only [if_true, hnone, List.isEmpty_nil]
    refine ⟨Cursor.rest_eat hc, ?_⟩
    intro k hk _
    have hvalue := Decimal.value_digits k
    rw [← hk] at hvalue
    exact congrArg (Digits.mk · 0 true) hvalue
  | @digits d ds hzero hdigits =>
    have hall : digitsAt c = d :: ds := digitsAt_of_rest hdigits.isDigit hrest hc
    have hd : Decimal.isDigit d = true := by
      rw [Decimal.isDigit_eq]
      exact hdigits.isDigit d List.mem_cons_self
    unfold wholeDigits
    rw [Cursor.peek?_of_rest hc]
    simp only [hzero, hd, hall, if_true, if_false]
    refine ⟨Cursor.rest_advance _ hc, ?_⟩
    intro k hk hlimit
    rw [hk, gather_digits hlimit]
    rfl

/-- The point and its digits are read up to their end, if they are there. -/
theorem gives_pointDigits (d : Digits) {point : List Char} (h : IsPoint point)
    (hrest : NoDigit rest) (hnone : ∀ x ∈ rest.head?, x ≠ '.')
    (hc : c.rest = point ++ rest) :
    Gives (pointDigits d c) rest (fun d' => point = [] → d' = d) False := by
  cases h with
  | none =>
    have hpeek : c.peek? ≠ some '.' := by
      intro hpeek
      unfold Cursor.peek? at hpeek
      rw [hc] at hpeek
      exact hnone '.' hpeek rfl
    unfold pointDigits
    rw [if_neg hpeek]
    exact ⟨hc, fun _ => rfl⟩
  | @digits ds hdigits =>
    have hall : digitsAt c.eat = ds := digitsAt_of_rest hdigits.isDigit hrest (Cursor.rest_eat hc)
    unfold pointDigits
    rw [if_pos (Cursor.peek?_of_rest hc)]
    simp only [hall, hdigits.isEmpty]
    exact ⟨Cursor.rest_advance _ (Cursor.rest_eat hc), nofun⟩

/-- The cursor after the sign of an exponent. -/
theorem rest_sign {sign ds : List Char} (hsign : sign ∈ [[], ['+'], ['-']]) (h : IsDigits ds)
    (hc : c.rest = sign ++ (ds ++ rest)) :
    (if c.peek? = some '+' ∨ c.peek? = some '-' then c.eat else c).rest = ds ++ rest := by
  simp only [List.mem_cons, List.not_mem_nil, or_false] at hsign
  rcases hsign with rfl | rfl | rfl
  · obtain ⟨d, ds, rfl⟩ := List.exists_cons_of_ne_nil h.ne_nil
    have hd := h.isDigit d List.mem_cons_self
    have hplus : d ≠ '+' := by
      rintro rfl
      exact absurd hd (by decide)
    have hminus : d ≠ '-' := by
      rintro rfl
      exact absurd hd (by decide)
    rw [Cursor.peek?_of_rest hc, if_neg (by simp [hplus, hminus])]
    exact hc
  · rw [Cursor.peek?_of_rest hc, if_pos (.inl rfl)]
    exact Cursor.rest_eat hc
  · rw [Cursor.peek?_of_rest hc, if_pos (.inr rfl)]
    exact Cursor.rest_eat hc

theorem peek?_exponent {exponent : List Char} (h : IsExponent exponent) (hne : exponent ≠ [])
    (hc : c.rest = exponent ++ rest) : c.peek? = some 'e' ∨ c.peek? = some 'E' := by
  cases h with
  | none => exact absurd rfl hne
  | digits hmark _ _ =>
    rw [Cursor.peek?_of_rest hc]
    rcases hmark with rfl | rfl
    · exact .inl rfl
    · exact .inr rfl

theorem peek?_ne_exponent (hrest : ∀ x ∈ rest.head?, x ≠ '.' ∧ x ≠ 'e' ∧ x ≠ 'E')
    (hc : c.rest = rest) : ¬ (c.peek? = some 'e' ∨ c.peek? = some 'E') := by
  unfold Cursor.peek?
  rw [hc]
  rintro (hpeek | hpeek)
  · exact (hrest 'e' hpeek).2.1 rfl
  · exact (hrest 'E' hpeek).2.2 rfl

/-- The exponent is read up to its end, if it is there. One that is too large is refused. -/
theorem gives_exponentDigits (d : Digits) {exponent : List Char} (h : IsExponent exponent)
    (hdigit : NoDigit rest) (hrest : ∀ x ∈ rest.head?, x ≠ '.' ∧ x ≠ 'e' ∧ x ≠ 'E')
    (hc : c.rest = exponent ++ rest) :
    Gives (exponentDigits d c) rest (fun d' => exponent = [] → d' = d) (exponent ≠ []) := by
  by_cases hne : exponent = []
  · subst hne
    unfold exponentDigits
    rw [if_neg (peek?_ne_exponent hrest hc)]
    exact ⟨hc, fun _ => rfl⟩
  · have hpeek := peek?_exponent h hne hc
    cases h with
    | none => exact absurd rfl hne
    | @digits mark sign ds hmark hsign hdigits =>
      have hmark' : c.eat.rest = sign ++ (ds ++ rest) := by
        rw [← List.append_assoc]
        exact Cursor.rest_eat hc
      have hcursor := rest_sign hsign hdigits hmark'
      have hall := digitsAt_of_rest hdigits.isDigit hdigit hcursor
      have hpast := Cursor.rest_advance _ hcursor
      unfold exponentDigits
      rw [if_pos hpeek]
      simp only [hall, hdigits.isEmpty]
      -- Whatever the exponent comes to, the digits are passed or the number is refused.
      cases overflowAt 0 ds with
      | none => exact ⟨hpast, nofun⟩
      | some n =>
        dsimp only [Bool.false_eq_true]
        rw [if_neg Bool.false_ne_true]
        split
        · exact hne
        · exact ⟨hpast, nofun⟩

/-- The parts of a number are those of a whole number of 64 bits. -/
structure IsInteger (minus : Bool) (whole point exponent : List Char) (k : Nat) : Prop where
  whole : whole = Decimal.digits k
  point : point = []
  exponent : exponent = []
  limit : k < Decimal.wordLimit
  negative : minus = true → 0 < k ∧ k ≤ 2 ^ 63

theorem number?_of_integer {minus : Bool} {k : Nat} (h : minus = true → 0 < k ∧ k ≤ 2 ^ 63) :
    (⟨k, 0, true⟩ : Digits).number? minus
      = some (.integer (if minus then -(k : Int) else (k : Int))) := by
  unfold Digits.number?
  cases minus with
  | false => rfl
  | true =>
    obtain ⟨hpos, hlimit⟩ := h rfl
    have hne : k ≠ 0 := Nat.ne_of_gt hpos
    have hle : k ≤ Nat.pow 2 63 := hlimit
    simp [hne, hle]

theorem gives_readUnsigned {minus : Bool} {whole point exponent : List Char}
    (hwhole : IsWhole whole) (hpoint : IsPoint point) (hexponent : IsExponent exponent)
    (hrest : Ends rest) (hc : c.rest = whole ++ (point ++ (exponent ++ rest))) :
    Gives (readUnsigned minus c) rest
      (fun n => ∀ k, IsInteger minus whole point exponent k →
        n = .integer (if minus then -(k : Int) else (k : Int)))
      (∀ k, ¬ IsInteger minus whole point exponent k) := by
  obtain ⟨hdigit, hmarks⟩ := hrest.stops
  have hdigit₁ := noDigit_exponent hexponent hdigit
  have hdigit₂ := noDigit_point hpoint hdigit₁
  refine (gives_wholeDigits hwhole hdigit₂ hc).sure.bind ?_
  intro d₁ c₁ hc₁ hd₁
  refine (gives_pointDigits d₁ hpoint hdigit₁ (hexponent.noPoint hmarks) hc₁).sure.bind ?_
  intro d₂ c₂ hc₂ hd₂
  have hexponent' := gives_exponentDigits d₂ hexponent hdigit hmarks hc₂
  refine (hexponent'.imp (fun _ => id) ?_).bind ?_
  · intro hne k hk
    exact hne hk.exponent
  · intro d₃ c₃ hc₃ hd₃
    have hwhole' : ∀ k, IsInteger minus whole point exponent k → d₃ = ⟨k, 0, true⟩ := by
      intro k hk
      rw [hd₃ hk.exponent, hd₂ hk.point, hd₁ k hk.whole hk.limit]
    cases hnumber : d₃.number? minus with
    | none =>
      simp only [hnumber]
      intro k hk
      rw [hwhole' k hk, number?_of_integer hk.negative] at hnumber
      cases hnumber
    | some n =>
      simp only [hnumber]
      refine ⟨hc₃, ?_⟩
      intro k hk
      rw [hwhole' k hk, number?_of_integer hk.negative] at hnumber
      exact (Option.some.inj hnumber).symm

/-- A number is read with its sign. -/
theorem gives_readNumber_parts {sign whole point exponent : List Char}
    (hsign : sign ∈ [[], ['-']]) (hwhole : IsWhole whole) (hpoint : IsPoint point)
    (hexponent : IsExponent exponent) (hrest : Ends rest)
    (hc : c.rest = sign ++ (whole ++ (point ++ (exponent ++ rest)))) :
    Gives (readNumber c) rest
      (fun n => ∀ k, IsInteger (sign == ['-']) whole point exponent k →
        n = .integer (if sign == ['-'] then -(k : Int) else (k : Int)))
      (∀ k, ¬ IsInteger (sign == ['-']) whole point exponent k) := by
  simp only [List.mem_cons, List.not_mem_nil, or_false] at hsign
  unfold readNumber
  rcases hsign with rfl | rfl
  · have hpeek : c.peek? ≠ some '-' := by
      obtain ⟨d, ds, hds, hd⟩ := hwhole.exists_cons
      rw [hds] at hc
      rw [Cursor.peek?_of_rest hc]
      rintro heq
      cases heq
      exact absurd hd (by decide)
    rw [if_neg hpeek]
    exact gives_readUnsigned hwhole hpoint hexponent hrest hc
  · rw [if_pos (Cursor.peek?_of_rest hc)]
    exact gives_readUnsigned hwhole hpoint hexponent hrest (Cursor.rest_eat hc)

/-- Reading a number goes up to its end, or fails. -/
theorem gives_readNumber {cs : List Char} (h : IsNumber cs) (hrest : Ends rest)
    (hc : c.rest = cs ++ rest) : Gives (readNumber c) rest (fun _ => True) True := by
  cases h with
  | parts hsign hwhole hpoint hexponent =>
    simp only [List.append_assoc] at hc
    exact (gives_readNumber_parts hsign hwhole hpoint hexponent hrest hc).imp
      (fun _ _ => trivial) fun _ => trivial

theorem isNumber_signedDigits (n : Int) : IsNumber (Decimal.signedDigits n) := by
  have hwhole := isWhole_digits n.natAbs
  unfold Decimal.signedDigits
  split
  · have hparts := IsNumber.parts (show ['-'] ∈ [[], ['-']] by simp) hwhole .none .none
    simpa using hparts
  · have hparts := IsNumber.parts (show [] ∈ [[], ['-']] by simp) hwhole .none .none
    simpa using hparts

/-- A whole number of 64 bits is read as that number. -/
theorem gives_readNumber_integer {n : Int} (hlow : -2 ^ 63 ≤ n) (hhigh : n < 2 ^ 64)
    (hrest : Ends rest) (hc : c.rest = Decimal.signedDigits n ++ rest) :
    Gives (readNumber c) rest (· = .integer n) False := by
  have hwhole := isWhole_digits n.natAbs
  have hlimit : n.natAbs < Decimal.wordLimit := by
    show n.natAbs < 2 ^ 64
    omega
  unfold Decimal.signedDigits at hc
  by_cases hneg : n < 0
  · rw [if_pos hneg] at hc
    have hinteger : IsInteger true (Decimal.digits n.natAbs) [] [] n.natAbs :=
      ⟨rfl, rfl, rfl, hlimit, fun _ => by omega⟩
    have hsign : ['-'] ∈ [[], ['-']] := by simp
    refine (gives_readNumber_parts hsign hwhole .none .none hrest hc).imp ?_ ?_
    · intro m hm
      rw [hm _ hinteger]
      have habs : -(n.natAbs : Int) = n := by omega
      exact congrArg Number.integer habs
    · intro hnone
      exact hnone _ hinteger
  · rw [if_neg hneg] at hc
    have hinteger : IsInteger false (Decimal.digits n.natAbs) [] [] n.natAbs :=
      ⟨rfl, rfl, rfl, hlimit, nofun⟩
    have hsign : [] ∈ [[], ['-']] := by simp
    refine (gives_readNumber_parts hsign hwhole .none .none hrest hc).imp ?_ ?_
    · intro m hm
      rw [hm _ hinteger]
      have habs : (n.natAbs : Int) = n := by omega
      exact congrArg Number.integer habs
    · intro hnone
      exact hnone _ hinteger

/-! ### Skipping -/

theorem passes_skipWholeDigits {ds : List Char} (h : IsWhole ds) (hrest : NoDigit rest)
    (hc : c.rest = ds ++ rest) : Passes (skipWholeDigits c) rest := by
  unfold skipWholeDigits
  cases h with
  | zero =>
    have hnone : digitsAt c.eat = [] := digitsAt_eq_nil hrest (Cursor.rest_eat hc)
    rw [Cursor.peek?_of_rest hc]
    simp only [if_true, hnone, List.isEmpty_nil]
    exact ⟨_, rfl, Cursor.rest_eat hc⟩
  | @digits d ds hzero hdigits =>
    have hall : digitsAt c = d :: ds := digitsAt_of_rest hdigits.isDigit hrest hc
    have hd : Decimal.isDigit d = true := by
      rw [Decimal.isDigit_eq]
      exact hdigits.isDigit d List.mem_cons_self
    rw [Cursor.peek?_of_rest hc]
    simp only [hzero, hd, hall, if_true, if_false]
    exact ⟨_, rfl, Cursor.rest_advance _ hc⟩

theorem passes_skipPointDigits {point : List Char} (h : IsPoint point) (hrest : NoDigit rest)
    (hnone : ∀ x ∈ rest.head?, x ≠ '.') (hc : c.rest = point ++ rest) :
    Passes (skipPointDigits c) rest := by
  unfold skipPointDigits
  cases h with
  | none =>
    have hpeek : c.peek? ≠ some '.' := by
      intro hpeek
      unfold Cursor.peek? at hpeek
      rw [hc] at hpeek
      exact hnone '.' hpeek rfl
    rw [if_neg hpeek]
    exact ⟨c, rfl, hc⟩
  | @digits ds hdigits =>
    have hall : digitsAt c.eat = ds := digitsAt_of_rest hdigits.isDigit hrest (Cursor.rest_eat hc)
    rw [if_pos (Cursor.peek?_of_rest hc)]
    simp only [hall, hdigits.isEmpty]
    exact ⟨_, rfl, Cursor.rest_advance _ (Cursor.rest_eat hc)⟩

theorem passes_skipExponent {exponent : List Char} (h : IsExponent exponent) (hdigit : NoDigit rest)
    (hrest : ∀ x ∈ rest.head?, x ≠ '.' ∧ x ≠ 'e' ∧ x ≠ 'E') (hc : c.rest = exponent ++ rest) :
    Passes (skipExponent c) rest := by
  unfold skipExponent
  by_cases hne : exponent = []
  · subst hne
    rw [if_neg (peek?_ne_exponent hrest hc)]
    exact ⟨c, rfl, hc⟩
  · have hpeek := peek?_exponent h hne hc
    cases h with
    | none => exact absurd rfl hne
    | @digits mark sign ds hmark hsign hdigits =>
      have hmark' : c.eat.rest = sign ++ (ds ++ rest) := by
        rw [← List.append_assoc]
        exact Cursor.rest_eat hc
      have hcursor := rest_sign hsign hdigits hmark'
      have hall := digitsAt_of_rest hdigits.isDigit hdigit hcursor
      rw [if_pos hpeek]
      simp only [hall, hdigits.isEmpty]
      exact ⟨_, rfl, Cursor.rest_advance _ hcursor⟩

/-- A number is skipped up to its end. -/
theorem passes_skipNumber {cs : List Char} (h : IsNumber cs) (hrest : Ends rest)
    (hc : c.rest = cs ++ rest) : Passes (skipNumber c) rest := by
  cases h with
  | @parts sign whole point exponent hsign hwhole hpoint hexponent =>
    simp only [List.append_assoc] at hc
    obtain ⟨hdigit, hmarks⟩ := hrest.stops
    have hdigit₁ := noDigit_exponent hexponent hdigit
    have hdigit₂ := noDigit_point hpoint hdigit₁
    have hcursor := hwhole.rest_minus hsign hc
    unfold skipNumber
    refine (passes_skipWholeDigits hwhole hdigit₂ hcursor).bind ?_
    intro c₁ hc₁
    refine (passes_skipPointDigits hpoint hdigit₁ (hexponent.noPoint hmarks) hc₁).bind ?_
    intro c₂ hc₂
    exact passes_skipExponent hexponent hdigit hmarks hc₂

end CameraFeed.Json
