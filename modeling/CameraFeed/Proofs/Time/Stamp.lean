import CameraFeed.Proofs.Decimal.Numeral
import CameraFeed.Time.Rfc3339
import Mathlib.Algebra.Ring.Nat
import Mathlib.Data.List.TakeWhile

/-! # Stamp — instants to the second

  A stamp is a day of a year of four digits and a time of that day, written as
  `2024-05-01T12:30:00Z`. Its text is read as its instant. -/

namespace CameraFeed.Time

/-- A second of a year of four digits. -/
structure Stamp where
  year : Nat
  month : Nat
  day : Nat
  hour : Nat
  minute : Nat
  second : Nat
  year_lt : year < 10000
  isValid : (Date.mk year month day).isValid = true
  hour_lt : hour < 24
  minute_lt : minute < 60
  second_lt : second < 60

namespace Stamp

/-- The day of the stamp. -/
def date (s : Stamp) : Date := ⟨s.year, s.month, s.day⟩

/-- The seconds since the day began. -/
def timeOfDay (s : Stamp) : Nat := s.hour * 3600 + s.minute * 60 + s.second

/-- The instant of the stamp. -/
def instant (s : Stamp) : Instant := ⟨s.date.daysSinceEpoch * 86400 + s.timeOfDay, 0⟩

/-- The stamp as it is written. -/
def text (s : Stamp) : List Char :=
  Decimal.padded 4 s.year ++ '-' :: (Decimal.padded 2 s.month ++ '-' ::
    (Decimal.padded 2 s.day ++ 'T' :: (Decimal.padded 2 s.hour ++ ':' ::
      (Decimal.padded 2 s.minute ++ ':' :: (Decimal.padded 2 s.second ++ ['Z'])))))

end Stamp

/-! ### The calendar -/

namespace Date

theorem length_monthLengths (year : Int) : (monthLengths year).length = 12 := rfl

theorem le_of_mem_monthLengths {year : Int} {length : Nat} (h : length ∈ monthLengths year) :
    length ≤ 31 := by
  unfold monthLengths at h
  split at h
  all_goals
    simp only [List.mem_cons, List.not_mem_nil, or_false] at h
    omega

/-- A valid day is one of a month that there is. -/
theorem isValid_iff (d : Date) : d.isValid = true ↔
    ∃ length, (monthLengths d.year)[d.month - 1]? = some length ∧
      1 ≤ d.month ∧ 1 ≤ d.day ∧ d.day ≤ length := by
  unfold isValid
  cases hlength : (monthLengths d.year)[d.month - 1]? with
  | none => simp
  | some length => simp [and_assoc]

theorem bounds_of_isValid {d : Date} (h : d.isValid = true) :
    (1 ≤ d.month ∧ d.month ≤ 12) ∧ (1 ≤ d.day ∧ d.day ≤ 31) := by
  obtain ⟨length, hlength, hmonth, hday, hle⟩ := (isValid_iff d).mp h
  have hindex := (List.getElem?_eq_some_iff.mp hlength).1
  have hlength' := le_of_mem_monthLengths (List.mem_of_getElem? hlength)
  rw [length_monthLengths] at hindex
  omega

/-- The days before a month are fewer than those of a year. -/
theorem daysBeforeMonth_le (year : Int) (n : Nat) :
    ((monthLengths year).take n).foldr (· + ·) 0 ≤ 366 := by
  have hall : (monthLengths year).sum ≤ 366 := by
    unfold monthLengths
    split <;> decide
  have hparts : ((monthLengths year).take n).sum + ((monthLengths year).drop n).sum
      = (monthLengths year).sum := by
    rw [← List.sum_append_nat, List.take_append_drop]
  show ((monthLengths year).take n).sum ≤ 366
  omega

end Date

namespace Rfc3339

/-! ### Parts -/

/-- `bind` hands the value on. -/
theorem ok_bind {α β : Type} (a : α) (k : α → Except Fault β) : (.ok a >>= k) = k a := rfl

/-- A number of a fixed width begins with a digit. -/
theorem exists_padded_cons {width n : Nat} (hwidth : 0 < width) (hn : n < 10 ^ width) :
    ∃ d ds, Decimal.padded width n = d :: ds ∧ Decimal.isDigit d = true := by
  have hne : Decimal.padded width n ≠ [] := by
    rw [← List.length_pos_iff, Decimal.length_padded hwidth hn]
    exact hwidth
  obtain ⟨d, ds, hd⟩ := List.exists_cons_of_ne_nil hne
  exact ⟨d, ds, hd, Decimal.isDigit_of_mem_padded (hd ▸ List.mem_cons_self)⟩

/-- Before a number no white space is skipped. -/
theorem trimStart_padded {width n : Nat} (hwidth : 0 < width) (hn : n < 10 ^ width)
    (rest : List Char) :
    Text.trimStart (Decimal.padded width n ++ rest) = Decimal.padded width n ++ rest := by
  obtain ⟨d, ds, hd, hdigit⟩ := exists_padded_cons hwidth hn
  rw [hd]
  unfold Text.trimStart
  simp [Decimal.isBlank_of_isDigit hdigit]

/-- A number of a fixed width is read as such. -/
theorem number_padded {width n : Nat} (hwidth : 0 < width) (hn : n < 10 ^ width)
    (rest : List Char) :
    number (some width) (Decimal.padded width n ++ rest) = .ok (n, rest) := by
  have hlength := Decimal.length_padded hwidth hn
  have htake : (Decimal.padded width n ++ rest).take width = Decimal.padded width n := by
    rw [List.take_append_of_le_length (by omega), List.take_of_length_le (by omega)]
  have hdigits : (Decimal.padded width n).takeWhile Decimal.isDigit = Decimal.padded width n :=
    List.takeWhile_eq_self_iff.mpr fun _ hc => Decimal.isDigit_of_mem_padded hc
  have hdrop : (Decimal.padded width n ++ rest).drop (Decimal.padded width n).length = rest :=
    List.drop_left
  have hvalue := Decimal.value_padded width n
  obtain ⟨d, ds, hd, -⟩ := exists_padded_cons hwidth hn
  unfold number
  simp only [htake, hdigits]
  rw [hd] at hdrop hvalue ⊢
  simp only [List.cons_append, hvalue]
  rw [← List.cons_append, hdrop]

theorem twoDigits_padded {least most n : Nat} (hleast : least ≤ n) (hmost : n ≤ most)
    (hn : n < 100) (rest : List Char) :
    twoDigits least most (Decimal.padded 2 n ++ rest) = .ok (n, rest) := by
  unfold twoDigits
  rw [trimStart_padded (by decide) hn, number_padded (by decide) hn]
  show (if least ≤ n ∧ n ≤ most then _ else _) = _
  rw [if_pos ⟨hleast, hmost⟩]

theorem year_padded {n : Nat} (hn : n < 10000) (rest : List Char) :
    year (Decimal.padded 4 n ++ rest) = .ok ((n : Int), rest) := by
  have hfits : yearFits n = true := by
    simp only [yearFits, Bool.and_eq_true, decide_eq_true_eq]
    omega
  obtain ⟨d, ds, hd, hdigit⟩ := exists_padded_cons (show 0 < 4 by decide) hn
  have hminus : d ≠ '-' := by
    rintro rfl
    exact absurd hdigit (by decide)
  have hplus : d ≠ '+' := by
    rintro rfl
    exact absurd hdigit (by decide)
  have hnumber := number_padded (show 0 < 4 by decide) hn rest
  unfold year
  rw [trimStart_padded (by decide) hn]
  rw [hd] at hnumber ⊢
  simp only [List.cons_append] at hnumber ⊢
  split
  · rename_i hcons
    exact absurd (List.cons.inj hcons).1 hminus
  · rename_i hcons
    exact absurd (List.cons.inj hcons).1 hplus
  · rw [hnumber]
    show (if yearFits n = true then _ else _) = _
    rw [if_pos hfits]

theorem looseMark_self {c : Char} (hc : Text.isBlank c = false) (rest : List Char) :
    looseMark c (c :: rest) = .ok rest := by
  unfold looseMark Text.trimStart
  simp [hc, mark]

theorem date_text {y m d : Nat} (hy : y < 10000) (hm : 1 ≤ m ∧ m ≤ 12) (hd : 1 ≤ d ∧ d ≤ 31)
    (rest : List Char) :
    date (Decimal.padded 4 y ++ '-' :: (Decimal.padded 2 m ++ '-' :: (Decimal.padded 2 d ++ rest)))
      = .ok (⟨y, m, d⟩, rest) := by
  have hdash : Text.isBlank '-' = false := by decide
  unfold date
  simp only [year_padded hy, looseMark_self hdash, ok_bind,
    twoDigits_padded hm.1 hm.2 (show m < 100 by omega),
    twoDigits_padded hd.1 hd.2 (show d < 100 by omega)]

/-- A time of day without parts of a second, before the mark of Greenwich. -/
theorem time_text {h m s : Nat} (hh : h < 24) (hm : m < 60) (hs : s < 60) :
    time (Decimal.padded 2 h ++ ':' :: (Decimal.padded 2 m ++ ':' :: (Decimal.padded 2 s ++ ['Z'])))
      = .ok ((h * 3600 + m * 60 + s, 0), ['Z']) := by
  have hcolon : Text.isBlank ':' = false := by decide
  have hleap : ¬ s = 60 := by omega
  have hend : Text.trimStart ['Z'] = ['Z'] := by decide
  unfold time
  simp only [looseMark_self hcolon, ok_bind,
    twoDigits_padded (Nat.zero_le h) (show h ≤ 23 by omega) (show h < 100 by omega),
    twoDigits_padded (Nat.zero_le m) (show m ≤ 59 by omega) (show m < 100 by omega),
    twoDigits_padded (Nat.zero_le s) (show s ≤ 60 by omega) (show s < 100 by omega),
    hleap, if_false, Nat.add_zero]
  show Except.ok ((h * 3600 + m * 60 + s, 0), Text.trimStart ['Z']) = _
  rw [hend]

/-! ### The whole -/

theorem firstSecond_eq : firstSecond = -8334601228800 := by decide +kernel

theorem lastSecond_eq : lastSecond = 8210266876799 := by decide +kernel

/-- A day of a year of four digits lies in the calendar. -/
theorem assemble_date (s : Stamp) : assemble s.date (s.timeOfDay, 0) 0 = .ok s.instant := by
  have hyear := s.year_lt
  have hcalendar : inCalendar s.year = true := by
    unfold inCalendar calendarYears
    simp
    omega
  obtain ⟨-, hday⟩ := Date.bounds_of_isValid s.isValid
  have hmonths := Date.daysBeforeMonth_le s.year (s.month - 1)
  have hhour := s.hour_lt
  have hminute := s.minute_lt
  have hsecond := s.second_lt
  have hdays : -719600 ≤ s.date.daysSinceEpoch ∧ s.date.daysSinceEpoch ≤ 3000000 := by
    unfold Date.daysSinceEpoch daysBeforeYear epochDays Stamp.date
    simp only at hday ⊢
    omega
  have hbounds : firstSecond ≤ s.date.daysSinceEpoch * 86400 + s.timeOfDay - 0
      ∧ s.date.daysSinceEpoch * 86400 + s.timeOfDay - 0 ≤ lastSecond := by
    rw [firstSecond_eq, lastSecond_eq]
    unfold Stamp.timeOfDay
    omega
  unfold assemble
  rw [if_neg (not_not_intro ⟨hcalendar, s.isValid⟩), if_neg (by decide)]
  show (if _ then Except.ok _ else _) = _
  rw [if_pos hbounds, Int.sub_zero]
  rfl

/-- The text of a stamp is read as its instant. -/
theorem read_text (s : Stamp) : read s.text = .ok s.instant := by
  obtain ⟨hmonth, hday⟩ := Date.bounds_of_isValid s.isValid
  have htime := time_text s.hour_lt s.minute_lt s.second_lt
  unfold read Stamp.text
  simp only [date_text s.year_lt hmonth hday, ok_bind, divider, true_or, if_true, htime]
  exact assemble_date s

end Rfc3339

/-! ### Every second has a stamp -/

namespace Date

theorem daysSinceEpoch_eq (d : Date) : d.daysSinceEpoch = daysBeforeYear d.year
    + (((monthLengths d.year).take (d.month - 1)).sum : Nat) + (d.day : Int) - 1 - epochDays := rfl

/-- The days before the month that follows another are those before it and its own. -/
theorem sum_take_succ {year : Int} {n length : Nat} (h : (monthLengths year)[n]? = some length) :
    ((monthLengths year).take (n + 1)).sum = ((monthLengths year).take n).sum + length := by
  rw [List.take_add_one, h, List.sum_append_nat]
  rfl

/-- A year has 365 days, or 366 when it is a leap year. -/
theorem daysBeforeYear_succ (year : Int) :
    daysBeforeYear (year + 1) = daysBeforeYear year + ((monthLengths year).sum : Nat) := by
  have hleap : isLeapYear year = true ↔ year % 4 = 0 ∧ (year % 100 ≠ 0 ∨ year % 400 = 0) := by
    simp [isLeapYear]
  unfold daysBeforeYear monthLengths
  simp only [List.sum_cons, List.sum_nil]
  by_cases h : isLeapYear year = true
  · rw [if_pos h]
    rw [hleap] at h
    omega
  · rw [if_neg h]
    rw [hleap] at h
    omega

/-- A day of the calendar has a next one. -/
theorem exists_next {d : Date} (h : d.isValid = true) :
    ∃ d' : Date, d'.isValid = true ∧ d'.daysSinceEpoch = d.daysSinceEpoch + 1 ∧
      (d'.year = d.year ∨ d'.year = d.year + 1) := by
  obtain ⟨length, hlength, hmonth, hday, hle⟩ := (isValid_iff d).mp h
  have hsum := sum_take_succ hlength
  rw [Nat.sub_add_cancel hmonth] at hsum
  by_cases hlast : d.day < length
  · refine ⟨⟨d.year, d.month, d.day + 1⟩, ?_, ?_, .inl rfl⟩
    · exact (isValid_iff _).mpr ⟨length, hlength, hmonth, Nat.succ_pos _, hlast⟩
    · simp only [daysSinceEpoch_eq]
      omega
  · by_cases hyear : d.month < 12
    · have hnext : (monthLengths d.year)[d.month]? = some (monthLengths d.year)[d.month] :=
        List.getElem?_eq_getElem hyear
      have hpos : ∀ n ∈ monthLengths d.year, 1 ≤ n := by
        unfold monthLengths
        split <;> decide
      refine ⟨⟨d.year, d.month + 1, 1⟩, ?_, ?_, .inl rfl⟩
      · exact (isValid_iff _).mpr ⟨_, hnext, Nat.succ_pos _, Nat.le_refl 1,
          hpos _ (List.getElem_mem _)⟩
      · simp only [daysSinceEpoch_eq, Nat.add_sub_cancel]
        omega
    · -- After the last day of December comes the first one of January.
      have hall : (monthLengths d.year).take d.month = monthLengths d.year :=
        List.take_of_length_le (Nat.le_of_not_lt hyear)
      have hnext := daysBeforeYear_succ d.year
      rw [hall] at hsum
      refine ⟨⟨d.year + 1, 1, 1⟩, ?_, ?_, .inr rfl⟩
      · exact (isValid_iff _).mpr ⟨31, rfl, Nat.le_refl 1, Nat.le_refl 1, show 1 ≤ 31 by decide⟩
      · simp only [daysSinceEpoch_eq, Nat.sub_self, List.take_zero, List.sum_nil]
        omega

/-- A year begins before its days. -/
theorem daysBeforeYear_le {d : Date} (h : d.isValid = true) :
    daysBeforeYear d.year - epochDays ≤ d.daysSinceEpoch := by
  obtain ⟨-, -, -, hday, -⟩ := (isValid_iff d).mp h
  rw [daysSinceEpoch_eq]
  omega

/-- Every day from the first one of year 0 on is one of the calendar. -/
theorem exists_daysSinceEpoch (n : Nat) :
    ∃ d : Date, d.isValid = true ∧ 0 ≤ d.year ∧ d.daysSinceEpoch = (n : Int) - 719528 := by
  induction n with
  | zero => exact ⟨⟨0, 1, 1⟩, by decide, Int.le_refl 0, by decide⟩
  | succ n ih =>
    obtain ⟨d, hvalid, hyear, hdays⟩ := ih
    obtain ⟨d', hvalid', hdays', hyear'⟩ := exists_next hvalid
    refine ⟨d', hvalid', ?_, ?_⟩ <;> omega

end Date

/-- The seconds of the years of four digits. -/
def fourDigitSeconds : Int × Int := (-62167219200, 253402300800)

/-- Every second of a year of four digits has a stamp. -/
theorem Stamp.exists_instant {t : Instant} (hnanos : t.nanos = 0)
    (hlow : fourDigitSeconds.1 ≤ t.seconds) (hhigh : t.seconds < fourDigitSeconds.2) :
    ∃ s : Stamp, s.instant = t := by
  obtain ⟨seconds, nanos⟩ := t
  simp only [fourDigitSeconds] at hnanos hlow hhigh
  obtain ⟨n, hn⟩ : ∃ n : Nat, (n : Int) = seconds / 86400 + 719528 :=
    ⟨(seconds / 86400 + 719528).toNat, by omega⟩
  obtain ⟨⟨year, month, day⟩, hvalid, hyear, hdays⟩ := Date.exists_daysSinceEpoch n
  have hbefore := Date.daysBeforeYear_le hvalid
  simp only at hyear hbefore
  have hlast : year < 10000 := by
    simp only [daysBeforeYear, epochDays] at hbefore
    omega
  obtain ⟨year, rfl⟩ := Int.eq_ofNat_of_zero_le hyear
  obtain ⟨rest, hrest⟩ : ∃ rest : Nat, (rest : Int) = seconds % 86400 :=
    ⟨(seconds % 86400).toNat, by omega⟩
  refine ⟨⟨year, month, day, rest / 3600, rest % 3600 / 60, rest % 60, by omega, hvalid, by omega,
    by omega, by omega⟩, ?_⟩
  have htime : rest / 3600 * 3600 + rest % 3600 / 60 * 60 + rest % 60 = rest := by omega
  simp only [Stamp.instant, Stamp.date, Stamp.timeOfDay, htime, hdays]
  subst hnanos
  congr 1
  omega

end CameraFeed.Time
