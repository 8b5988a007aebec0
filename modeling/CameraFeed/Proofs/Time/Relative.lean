import CameraFeed.Proofs.Decimal.Numeral
import CameraFeed.Time.Zone
import Mathlib.Tactic.Ring

/-! # Relative — relative times and their texts

  The whole seconds between two instants change their sign when the instants are exchanged, so the
  relative time has the same amount and unit then, in the other direction. The text determines the
  relative time: its words are an amount, a unit and a direction. A longer distance never gives a
  shorter relative time, also where a larger unit begins. -/

namespace CameraFeed.Time

/-! ### Differences -/

namespace Instant

variable (now before : Instant)

/-- Nanoseconds since the epoch. -/
def nanosTotal (t : Instant) : Int := t.seconds * (second : Int) + (t.nanos : Int)

/-- By seconds, and by nanoseconds within the same second. -/
instance : LE Instant :=
  ⟨fun t u => t.seconds < u.seconds ∨ t.seconds = u.seconds ∧ t.nanos ≤ u.nanos⟩

theorem nanosTotal_le {t u : Instant} (ht : t.inLeapSecond = false) (h : t ≤ u) :
    t.nanosTotal ≤ u.nanosTotal := by
  -- Without a leap second the nanoseconds do not reach into the next second.
  have hnanos : t.nanos < second := by simpa [inLeapSecond] using ht
  unfold second at hnanos
  unfold nanosTotal second
  rcases h with hseconds | ⟨hseconds, hle⟩
  · omega
  · omega

/-- Away from leap seconds a difference is one of nanoseconds since the epoch. -/
theorem nanosSince_eq (hbefore : before.inLeapSecond = false) (hnow : now.inLeapSecond = false) :
    nanosSince now before = now.nanosTotal - before.nanosTotal := by
  have hleap : leapBetween now before = 0 := by simp [leapBetween, hbefore, hnow]
  unfold nanosSince nanosTotal
  rw [hleap]
  ring

/-- The leap second counts the other way round. -/
theorem leapBetween_swap : leapBetween before now = -leapBetween now before := by
  unfold leapBetween
  split_ifs <;> omega

theorem nanosSince_swap : nanosSince before now = -nanosSince now before := by
  unfold nanosSince
  rw [leapBetween_swap]
  ring

/-- Rounding toward zero treats both directions alike. -/
theorem secondsSince_swap : secondsSince before now = -secondsSince now before := by
  unfold secondsSince
  rw [nanosSince_swap, Int.neg_tdiv]

end Instant

/-! ### Units -/

namespace Unit

theorem seconds_pos (u : Unit) : 0 < u.seconds := by
  cases u <;> decide

/-- The largest unit that fits into a distance. -/
theorem fitting_spec {distance : Nat} (h : 1 ≤ distance) :
    (fitting distance).seconds ≤ distance ∧
      ∀ v : Unit, v.seconds ≤ distance → v.seconds ≤ (fitting distance).seconds := by
  unfold fitting
  split_ifs
  -- The distance lies between this unit and the next one, so it decides about every unit.
  all_goals
    refine ⟨by simp only [seconds]; omega, ?_⟩
    intro v hv
    cases v <;> simp only [seconds] at hv ⊢ <;> omega

theorem eq_of_seconds_eq {u v : Unit} (h : u.seconds = v.seconds) : u = v := by
  cases u <;> cases v <;> simp [seconds] at h ⊢

/-- A number of a unit, in the plural unless there is one. -/
def counted (u : Unit) (n : Nat) : String :=
  if n = 1 then "1 " ++ u.name else Decimal.text n ++ " " ++ u.name ++ "s"

end Unit

/-- A number of the largest unit that fits into a distance, rounded down. -/
structure Measures (n : Nat) (u : Unit) (distance : Nat) : Prop where
  pos : 1 ≤ n
  fits : u.seconds ≤ distance
  /-- No larger unit fits. -/
  largest : ∀ v : Unit, v.seconds ≤ distance → v.seconds ≤ u.seconds
  le : n * u.seconds ≤ distance
  /-- One more would be too many. -/
  lt : distance < (n + 1) * u.seconds

/-- Every distance is measured in one way. -/
theorem measures_iff {n : Nat} {u : Unit} {distance : Nat} (h : 1 ≤ distance) :
    Measures n u distance ↔ u = Unit.fitting distance ∧ n = distance / u.seconds := by
  obtain ⟨hfits, hlargest⟩ := Unit.fitting_spec h
  constructor
  · intro hm
    refine ⟨?_, ?_⟩
    · apply Unit.eq_of_seconds_eq
      exact Nat.le_antisymm (hlargest u hm.fits) (hm.largest _ hfits)
    · symm
      exact Nat.div_eq_of_lt_le hm.le hm.lt
  · rintro ⟨rfl, rfl⟩
    have hpos := (Unit.fitting distance).seconds_pos
    exact {
      pos := Nat.div_pos hfits hpos
      fits := hfits
      largest := hlargest
      le := Nat.div_mul_le_self distance _
      lt := by
        rw [Nat.add_mul, Nat.one_mul]
        exact Nat.lt_div_mul_add hpos }

/-- A longer distance is measured by at least as many seconds. -/
theorem Measures.mul_seconds_le {n n' : Nat} {u u' : Unit} {distance distance' : Nat}
    (h : Measures n u distance) (h' : Measures n' u' distance') (hle : distance ≤ distance') :
    n * u.seconds ≤ n' * u'.seconds := by
  by_cases hfits : u'.seconds ≤ distance
  -- The units are the same, and the amounts are in order.
  · have hsame : u = u' := by
      apply Unit.eq_of_seconds_eq
      exact Nat.le_antisymm (h'.largest u (Nat.le_trans h.fits hle)) (h.largest u' hfits)
    subst hsame
    have hlt : n * u.seconds < (n' + 1) * u.seconds :=
      Nat.lt_of_le_of_lt (Nat.le_trans h.le hle) h'.lt
    have hn : n < n' + 1 := Nat.lt_of_mul_lt_mul_right hlt
    exact Nat.mul_le_mul_right _ (Nat.le_of_lt_succ hn)
  -- One of the larger unit is longer than all of the shorter distance.
  · calc n * u.seconds ≤ distance := h.le
      _ ≤ u'.seconds := Nat.le_of_not_le hfits
      _ ≤ n' * u'.seconds := Nat.le_mul_of_pos_left _ h'.pos

namespace Relative

/-! ### Seconds of a relative time -/

/-- The distance from its other end. -/
def swapped : Relative → Relative
  | justNow => justNow
  | ago amount unit => ahead amount unit
  | ahead amount unit => ago amount unit

/-- The seconds of a relative time. -/
def span : Relative → Nat
  | justNow => 0
  | ago amount unit => amount * unit.seconds
  | ahead amount unit => amount * unit.seconds

section ofSeconds
variable (s : Int) (n : Nat) (u : Unit)

theorem ofSeconds_eq_justNow_iff : ofSeconds s = justNow ↔ s.natAbs < 10 := by
  unfold ofSeconds
  split_ifs <;> simp [*]

/-- A relative time is in the past exactly from ten seconds on, with the amount and unit that
measure the seconds. -/
theorem ofSeconds_eq_ago_iff : ofSeconds s = ago n u ↔ 10 ≤ s ∧ Measures n u s.natAbs := by
  by_cases hnow : s.natAbs < 10
  · have hs : ¬10 ≤ s := by omega
    simp [ofSeconds, hnow, hs]
  · rw [measures_iff (by omega)]
    by_cases hneg : s < 0
    · have hs : ¬10 ≤ s := by omega
      simp [ofSeconds, hnow, hneg, hs]
    · have hs : 10 ≤ s := by omega
      simp only [ofSeconds, hnow, hneg, hs, if_false, ago.injEq, true_and]
      constructor
      · rintro ⟨rfl, rfl⟩
        exact ⟨rfl, rfl⟩
      · rintro ⟨rfl, rfl⟩
        exact ⟨rfl, rfl⟩

/-- Exchanging the instants exchanges past and future. -/
theorem ofSeconds_neg : ofSeconds (-s) = (ofSeconds s).swapped := by
  unfold ofSeconds
  rw [Int.natAbs_neg]
  by_cases hnow : s.natAbs < 10
  · simp only [hnow, if_true, swapped]
  · by_cases hneg : s < 0
    · have hpos : ¬-s < 0 := by omega
      simp only [hnow, hneg, hpos, if_false, if_true, swapped]
    · have hpos : -s < 0 := by omega
      simp only [hnow, hneg, hpos, if_false, if_true, swapped]

theorem swapped_eq_ago_iff (r : Relative) : r.swapped = ago n u ↔ r = ahead n u := by
  cases r <;> simp [swapped]

/-- A relative time is in the future exactly from ten seconds on, measured in the same way. -/
theorem ofSeconds_eq_ahead_iff : ofSeconds s = ahead n u ↔ s ≤ -10 ∧ Measures n u s.natAbs := by
  rw [← swapped_eq_ago_iff, ← ofSeconds_neg, ofSeconds_eq_ago_iff, Int.natAbs_neg]
  have hs : 10 ≤ -s ↔ s ≤ -10 := by omega
  rw [hs]

/-- Just now, or so much of a unit before or after now. -/
theorem span_ofSeconds :
    s.natAbs < 10 ∧ (ofSeconds s).span = 0 ∨
      10 ≤ s.natAbs ∧ ∃ n u, Measures n u s.natAbs ∧ (ofSeconds s).span = n * u.seconds := by
  cases hs : ofSeconds s with
  | justNow => exact .inl ⟨(ofSeconds_eq_justNow_iff s).mp hs, rfl⟩
  | ago n u =>
    obtain ⟨hpast, hmeasures⟩ := (ofSeconds_eq_ago_iff s n u).mp hs
    exact .inr ⟨by omega, n, u, hmeasures, rfl⟩
  | ahead n u =>
    obtain ⟨hfuture, hmeasures⟩ := (ofSeconds_eq_ahead_iff s n u).mp hs
    exact .inr ⟨by omega, n, u, hmeasures, rfl⟩

end ofSeconds

theorem span_ofSeconds_le {s t : Int} (h : s.natAbs ≤ t.natAbs) :
    (ofSeconds s).span ≤ (ofSeconds t).span := by
  rcases span_ofSeconds s with ⟨-, hs⟩ | ⟨hfar, n, u, hmeasures, hs⟩
  · rw [hs]
    exact Nat.zero_le _
  · rcases span_ofSeconds t with ⟨hnow, -⟩ | ⟨-, n', u', hmeasures', ht⟩
    · omega
    · rw [hs, ht]
      exact hmeasures.mul_seconds_le hmeasures' h

theorem of_swap (before now : Instant) : of now before = (of before now).swapped := by
  unfold of
  rw [Instant.secondsSince_swap, ofSeconds_neg]

/-- Of two instants in the past, the earlier one has at least as long a relative time. -/
theorem span_of_le {before later now : Instant} (hbefore : before.inLeapSecond = false)
    (hlater : later.inLeapSecond = false) (hnow : now.inLeapSecond = false) (hle : before ≤ later)
    (hgone : later ≤ now) : (of later now).span ≤ (of before now).span := by
  have hnanos : later.nanosTotal ≤ now.nanosTotal := Instant.nanosTotal_le hlater hgone
  have hnanos' : before.nanosTotal ≤ later.nanosTotal := Instant.nanosTotal_le hbefore hle
  have hpos : (0 : Int) < Instant.second := by decide
  have hsince : 0 ≤ now.secondsSince later := by
    unfold Instant.secondsSince
    rw [Instant.nanosSince_eq now later hlater hnow]
    apply Int.tdiv_nonneg
    · omega
    · exact Int.le_of_lt hpos
  have hmore : now.secondsSince later ≤ now.secondsSince before := by
    unfold Instant.secondsSince
    rw [Instant.nanosSince_eq now later hlater hnow, Instant.nanosSince_eq now before hbefore hnow]
    apply Int.tdiv_le_tdiv hpos
    omega
  apply span_ofSeconds_le
  omega

/-! ### The text -/

theorem amountText_eq (n : Nat) (u : Unit) : amountText n u = u.counted n := by
  unfold amountText Unit.counted
  by_cases hone : n = 1
  · subst hone
    simp
    rfl
  · simp [hone]

/-- The unit in the singular or the plural. -/
def unitWord (n : Nat) (u : Unit) : String := u.name ++ (if n = 1 then "" else "s")

theorem isWord_unitWord (n : Nat) (u : Unit) : Text.IsWord (unitWord n u).toList := by
  unfold unitWord
  cases u <;> split <;> exact Text.isWord_of_all (by decide) (by decide)

/-- The words of a relative time. -/
def words : Relative → List String
  | justNow => ["just", "now"]
  | ago n u => [Decimal.text n, unitWord n u, "ago"]
  | ahead n u => ["in", Decimal.text n, unitWord n u]

theorem wordsOf_text (r : Relative) : Text.wordsOf r.text = r.words := by
  have hnumber : ∀ n, Text.IsWord (Decimal.text n).toList := by
    intro n
    rw [Decimal.toList_text]
    exact Decimal.isWord_digits n
  have hin : Text.IsWord "in".toList := Text.isWord_of_all (by decide) (by decide)
  have hago : Text.IsWord "ago".toList := Text.isWord_of_all (by decide) (by decide)
  cases r with
  | justNow => decide +kernel
  | ago n u =>
    have htext : (ago n u).text = Decimal.text n ++ " " ++ (unitWord n u ++ " " ++ "ago") := by
      simp [text, amountText, unitWord, String.append_assoc]
    rw [htext, Text.wordsOf_append (hnumber n), Text.wordsOf_append (isWord_unitWord n u),
      Text.wordsOf_of_isWord hago]
    rfl
  | ahead n u =>
    have htext : (ahead n u).text = "in" ++ " " ++ (Decimal.text n ++ " " ++ unitWord n u) := by
      simp [text, amountText, unitWord, String.append_assoc]
    rw [htext, Text.wordsOf_append hin, Text.wordsOf_append (hnumber n),
      Text.wordsOf_of_isWord (isWord_unitWord n u)]
    rfl

theorem eq_of_unitWord_eq {n : Nat} {u v : Unit} (h : unitWord n u = unitWord n v) : u = v := by
  have hname : u.name = v.name := (String.append_left_inj _).mp h
  cases u <;> cases v <;> simp [Unit.name] at hname ⊢

/-- The text determines the relative time. -/
theorem text_injective : Function.Injective text := by
  intro r r' htext
  have hwords : r.words = r'.words := by
    rw [← wordsOf_text, ← wordsOf_text, htext]
  -- What is ahead is told apart from what is gone by the first word, which is no number there.
  have hin : ∀ n, Decimal.text n ≠ "in" := fun n =>
    Decimal.text_ne (c := 'i') (by decide) (by decide)
  cases r with
  | justNow => cases r' <;> simp [words] at hwords ⊢
  | ago n u =>
    cases r' with
    | justNow => simp [words] at hwords
    | ago n' u' =>
      simp only [words, List.cons.injEq, and_true] at hwords
      obtain ⟨hnumber, hunit⟩ := hwords
      obtain rfl := Decimal.eq_of_text_eq hnumber
      rw [eq_of_unitWord_eq hunit]
    | ahead n' u' =>
      simp only [words, List.cons.injEq] at hwords
      exact absurd hwords.1 (hin n)
  | ahead n u =>
    cases r' with
    | justNow => simp [words] at hwords
    | ago n' u' =>
      simp only [words, List.cons.injEq] at hwords
      exact absurd hwords.1.symm (hin n')
    | ahead n' u' =>
      simp only [words, List.cons.injEq, and_true, true_and] at hwords
      obtain ⟨hnumber, hunit⟩ := hwords
      obtain rfl := Decimal.eq_of_text_eq hnumber
      rw [eq_of_unitWord_eq hunit]

theorem exists_ago_of_text {r : Relative} {told : String} (h : r.text = told ++ " ago") :
    ∃ n u, r = ago n u := by
  have hago : Text.wordsOf "ago" = ["ago"] := by decide +kernel
  -- The last word is the direction, and no unit is called so.
  have hwords : r.words = Text.wordsOf told ++ ["ago"] := by
    rw [← wordsOf_text, h, ← hago, ← Text.wordsOf_append_space, String.append_assoc]
    rfl
  have hlast : r.words.getLast? = some "ago" := by
    rw [hwords, List.getLast?_concat]
  cases r with
  | justNow => simp [words] at hlast
  | ago n u => exact ⟨n, u, rfl⟩
  | ahead n u =>
    have hunit : unitWord n u = "ago" := by simpa [words] using hlast
    unfold unitWord at hunit
    cases u <;> split at hunit <;> simp [Unit.name] at hunit

theorem exists_ahead_of_text {r : Relative} {told : String} (h : r.text = "in " ++ told) :
    ∃ n u, r = ahead n u := by
  have hin : Text.wordsOf "in" = ["in"] := by decide +kernel
  -- The first word is the direction, and no other distance begins with it.
  have hwords : r.words = ["in"] ++ Text.wordsOf told := by
    rw [← wordsOf_text, h, ← hin, ← Text.wordsOf_append_space]
    rfl
  cases r with
  | justNow => simp [words] at hwords
  | ago n u =>
    simp only [words, List.cons_append, List.cons.injEq] at hwords
    exact absurd hwords.1 (Decimal.text_ne (c := 'i') (by decide) (by decide))
  | ahead n u => exact ⟨n, u, rfl⟩

/-- A text of the past from one end is one of the future from the other. -/
theorem text_eq_ago_iff (r : Relative) (told : String) :
    r.text = told ++ " ago" ↔ r.swapped.text = "in " ++ told := by
  have hago : ∀ n u, (ago n u).text = told ++ " ago" ↔ (ahead n u).text = "in " ++ told := by
    intro n u
    show amountText n u ++ " ago" = told ++ " ago" ↔ "in " ++ amountText n u = "in " ++ told
    rw [String.append_left_inj, String.append_right_inj]
  constructor
  · intro h
    obtain ⟨n, u, rfl⟩ := exists_ago_of_text h
    exact (hago n u).mp h
  · intro h
    obtain ⟨n, u, hswapped⟩ := exists_ahead_of_text h
    rw [hswapped] at h
    cases r with
    | justNow => cases hswapped
    | ago n u =>
      cases hswapped
      exact (hago n u).mpr h
    | ahead n u => cases hswapped

theorem text_ago (n : Nat) (u : Unit) : (ago n u).text = u.counted n ++ " ago" := by
  rw [← amountText_eq]
  rfl

theorem text_ahead (n : Nat) (u : Unit) : (ahead n u).text = "in " ++ u.counted n := by
  rw [← amountText_eq]
  rfl

end Relative

/-! ### The main statement -/

/-- Less than ten seconds in either direction is `just now`. A longer distance is a number of the
largest unit that fits, rounded down, `ago` for an instant in the past and `in` for one in the
future. Exchanging the instants keeps the amount and the unit, the zone of the clock changes
nothing, and of two instants in the past the earlier one has at least as long a relative time. -/
theorem told_of_instants (before now : Instant) :
    (before.inLeapSecond = false → now.inLeapSecond = false →
      now.secondsSince before = (now.nanosTotal - before.nanosTotal).tdiv Instant.second) ∧
    (relativeText before now = "just now" ↔ (now.secondsSince before).natAbs < 10) ∧
    (10 ≤ (now.secondsSince before).natAbs → ∃ n u,
      Measures n u (now.secondsSince before).natAbs ∧ relativeText before now =
        if 0 < now.secondsSince before then u.counted n ++ " ago" else "in " ++ u.counted n) ∧
    (∀ n u, relativeText before now = Unit.counted u n ++ " ago" →
      0 < now.secondsSince before ∧ Measures n u (now.secondsSince before).natAbs) ∧
    (∀ n u, relativeText before now = "in " ++ Unit.counted u n →
      now.secondsSince before < 0 ∧ Measures n u (now.secondsSince before).natAbs) ∧
    (∀ told, relativeText before now = told ++ " ago" ↔ relativeText now before = "in " ++ told) ∧
    (relativeText before now = "just now" ↔ relativeText now before = "just now") ∧
    (∀ offset, (before.shownAt offset).relativeText now = relativeText before now) ∧
    ∀ later : Instant, before.inLeapSecond = false → later.inLeapSecond = false →
      now.inLeapSecond = false → before ≤ later → later ≤ now →
      ∀ r r' : Relative, r.text = relativeText before now → r'.text = relativeText later now →
        r'.span ≤ r.span := by
  have htold : ∀ r : Relative, relativeText before now = r.text ↔ Relative.of before now = r :=
    fun _ => Relative.text_injective.eq_iff
  have hjustNow : ∀ before now : Instant,
      relativeText before now = "just now" ↔ (now.secondsSince before).natAbs < 10 := by
    intro before now
    rw [← Relative.ofSeconds_eq_justNow_iff]
    exact Relative.text_injective.eq_iff (a := Relative.of before now) (b := .justNow)
  refine ⟨?_, hjustNow before now, ?_, ?_, ?_, ?_, ?_, ?_, ?_⟩
  · intro hbefore hnow
    unfold Instant.secondsSince
    rw [Instant.nanosSince_eq now before hbefore hnow]
  · intro hfar
    have hmeasures : Measures _ _ (now.secondsSince before).natAbs :=
      (measures_iff (by omega)).mpr ⟨rfl, rfl⟩
    refine ⟨_, _, hmeasures, ?_⟩
    split_ifs with hpast
    · rw [← Relative.text_ago, htold]
      exact (Relative.ofSeconds_eq_ago_iff _ _ _).mpr ⟨by omega, hmeasures⟩
    · rw [← Relative.text_ahead, htold]
      exact (Relative.ofSeconds_eq_ahead_iff _ _ _).mpr ⟨by omega, hmeasures⟩
  · intro n u h
    rw [← Relative.text_ago, htold] at h
    obtain ⟨hpast, hmeasures⟩ := (Relative.ofSeconds_eq_ago_iff _ n u).mp h
    exact ⟨by omega, hmeasures⟩
  · intro n u h
    rw [← Relative.text_ahead, htold] at h
    obtain ⟨hfuture, hmeasures⟩ := (Relative.ofSeconds_eq_ahead_iff _ n u).mp h
    exact ⟨by omega, hmeasures⟩
  · intro told
    unfold relativeText
    rw [Relative.of_swap before now]
    exact Relative.text_eq_ago_iff _ told
  · rw [hjustNow, hjustNow, Instant.secondsSince_swap, Int.natAbs_neg]
  · intro offset
    unfold Reading.relativeText
    rw [Reading.instant_shownAt]
  · intro later hbefore hlater hnow hle hgone r r' hr hr'
    obtain rfl := Relative.text_injective hr
    obtain rfl := Relative.text_injective hr'
    exact Relative.span_of_le hbefore hlater hnow hle hgone

/-- An hour and a second and a half ago, the same from the other end, a time to come that is not
quite ten seconds away, and two minutes ago beside the hour. -/
theorem told_of_anHour :
    (∃ n u, Measures n u 3601 ∧ relativeText ⟨-3602, 500000000⟩ ⟨0, 0⟩ = u.counted n ++ " ago") ∧
      relativeText ⟨0, 0⟩ ⟨-3602, 500000000⟩ = "in " ++ "1 hour" ∧
      relativeText ⟨0, 999999999⟩ ⟨-9, 0⟩ = "just now" ∧
      Relative.span (.ago 2 .minute) ≤ Relative.span (.ago 1 .hour) := by
  obtain ⟨-, -, hfar, -, -, hswap, -, -, hspan⟩ := told_of_instants ⟨-3602, 500000000⟩ ⟨0, 0⟩
  refine ⟨?_, ?_, ?_, ?_⟩
  · obtain ⟨n, u, hmeasures, htext⟩ := hfar (by decide)
    exact ⟨n, u, hmeasures, htext⟩
  · apply (hswap "1 hour").mp
    decide +kernel
  · apply (told_of_instants _ _).2.1.mpr
    decide
  · apply hspan ⟨-120, 0⟩ rfl rfl rfl (.inl (by decide)) (.inl (by decide))
    · decide +kernel
    · decide +kernel

end CameraFeed.Time
