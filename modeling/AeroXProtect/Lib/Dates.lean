import AeroXProtect.Lib.Calendar
import AeroXProtect.Lib.Clock
import Mathlib.Data.List.Basic
import Mathlib.Tactic.Common

/-!
# The date of an instant

A day is counted from the first of January of the year 1; `dateOf` answers its date, by the cycles
of 400, 100 and 4 years and then month by month. `isDate_dateOf` says that the count of the date is
the day again and that year, month and day are in their ranges, and `clockFields_lt` that the
numbers a clock shows are ordered as the instants.
-/

namespace Lib

/-- The month of a day and the day in the month; the day is counted from the first of `month`, and
`rest` months follow in the year. -/
def monthFrom (year : Nat) : Nat → Nat → Nat → Nat × Nat
  | 0, month, day => (month, day + 1)
  | rest + 1, month, day =>
    if day < daysInMonth year month then (month, day + 1)
    else monthFrom year rest (month + 1) (day - daysInMonth year month)

/-- Year, month and day of the day that many days after the first of January of the year 1. -/
def dateOf (n : Nat) : Nat × Nat × Nat :=
  let a := n % 146097
  let b := a % 36524
  let c := b % 1461
  let year := 400 * (n / 146097) + 100 * (a / 36524) + 4 * (b / 1461) + c / 365 + 1
  -- the last day of a cycle of 4 or of 400 years is the day that a leap year has more
  if c / 365 = 4 ∨ a / 36524 = 4 then (year - 1, 12, 31)
  else (year, monthFrom year 11 1 (c % 365))

/-- The days of a year before a month. -/
def daysBefore (year month : Nat) : Nat :=
  ((List.range (month - 1)).map fun k => daysInMonth year (k + 1)).sum

section
variable {year month day rest : Nat}

theorem daysBefore_succ (h : 1 ≤ month) :
    daysBefore year (month + 1) = daysBefore year month + daysInMonth year month := by
  obtain ⟨k, rfl⟩ := Nat.exists_eq_add_of_le' h
  unfold daysBefore
  rw [Nat.add_sub_cancel, Nat.add_sub_cancel, List.range_succ, List.map_append, List.sum_append]
  rfl

/-- The days of a year. -/
theorem daysBefore_thirteen : daysBefore year 13 = if isLeap year then 366 else 365 := by
  cases h : isLeap year <;> simp [daysBefore, List.range_succ, daysInMonth, h]

theorem daysInMonth_le : daysInMonth year month ≤ 31 := by
  unfold daysInMonth
  repeat' split
  all_goals omega

/-- The month and the day in it say the day of the year. -/
theorem monthFrom_spec (hmonth : 1 ≤ month) (hrest : month + rest = 12)
    (hday : daysBefore year month + day < daysBefore year 13) :
    ∃ m d, monthFrom year rest month day = (m, d) ∧ 1 ≤ m ∧ m ≤ 12 ∧ 1 ≤ d ∧
      d ≤ daysInMonth year m ∧ daysBefore year m + d = daysBefore year month + day + 1 := by
  induction rest generalizing month day with
  | zero =>
    obtain rfl : month = 12 := by omega
    have hsucc : daysBefore year 13 = daysBefore year 12 + daysInMonth year 12 :=
      daysBefore_succ hmonth
    exact ⟨12, day + 1, rfl, by omega, by omega, by omega, by omega, by omega⟩
  | succ rest ih =>
    unfold monthFrom
    split
    · next hlt => exact ⟨month, day + 1, rfl, hmonth, by omega, by omega, by omega, by omega⟩
    · next hge =>
      have hsucc : daysBefore year (month + 1) = daysBefore year month + daysInMonth year month :=
        daysBefore_succ hmonth
      obtain ⟨m, d, heq, h₁, h₂, h₃, h₄, hsum⟩ :=
        @ih (month + 1) (day - daysInMonth year month) (by omega) (by omega) (by omega)
      exact ⟨m, d, heq, h₁, h₂, h₃, h₄, by omega⟩

theorem dayNumber_succ (year month day : Nat) :
    dayNumber (year + 1) month day = 365 * (year : Int) + (year / 4 : Nat) - (year / 100 : Nat) +
      (year / 400 : Nat) + daysBefore (year + 1) month + day - 1 - 719162 := by
  have hyear : ((year + 1 : Nat) : Int) - 1 = year := by omega
  rw [dayNumber, hyear]
  rfl

theorem isLeap_iff : isLeap year = true ↔ year % 4 = 0 ∧ (year % 100 ≠ 0 ∨ year % 400 = 0) := by
  simp [isLeap]

end

/-- A date as `dateOf` answers it. -/
structure IsDate (n year month day : Nat) : Prop where
  year_pos : 1 ≤ year
  year_lt : n < 3652059 → year < 10000
  month_range : 1 ≤ month ∧ month ≤ 12
  day_range : 1 ≤ day ∧ day ≤ daysInMonth year month
  dayNumber : dayNumber year month day = (n : Int) - 719162

/-- The days before a year, by the cycles that have passed. -/
theorem div_cycles {a b c d : Nat} (hb : b ≤ 3) (hc : c ≤ 24) (hd : d ≤ 3) :
    (400 * a + 100 * b + 4 * c + d) / 4 = 100 * a + 25 * b + c ∧
      (400 * a + 100 * b + 4 * c + d) / 100 = 4 * a + b ∧
      (400 * a + 100 * b + 4 * c + d) / 400 = a := by
  omega

/-- **The date of a day** is counted back to the day. -/
theorem isDate_dateOf (n : Nat) : IsDate n (dateOf n).1 (dateOf n).2.1 (dateOf n).2.2 := by
  obtain ⟨a, ha⟩ : ∃ a, n / 146097 = a := ⟨_, rfl⟩
  obtain ⟨b, hb⟩ : ∃ b, n % 146097 / 36524 = b := ⟨_, rfl⟩
  obtain ⟨c, hc⟩ : ∃ c, n % 146097 % 36524 / 1461 = c := ⟨_, rfl⟩
  obtain ⟨d, hd⟩ : ∃ d, n % 146097 % 36524 % 1461 / 365 = d := ⟨_, rfl⟩
  unfold dateOf
  simp only [ha, hb, hc, hd]
  split
  · next hlast =>
    -- the last day of a leap year
    obtain ⟨b', c', hyear, hb', hc'⟩ : ∃ b' c', 400 * a + 100 * b + 4 * c + d + 1 - 1 =
        400 * a + 100 * b' + 4 * c' + 3 + 1 ∧ b' ≤ 3 ∧ c' ≤ 24 := by
      rcases hlast with h | h
      · exact ⟨b, c, by omega, by omega, by omega⟩
      · exact ⟨3, 24, by omega, by omega, by omega⟩
    have hleap : isLeap (400 * a + 100 * b' + 4 * c' + 3 + 1) = true := isLeap_iff.2 (by omega)
    have hbefore : daysBefore (400 * a + 100 * b' + 4 * c' + 3 + 1) 12 = 335 := by
      simp [daysBefore, List.range_succ, daysInMonth, hleap]
    obtain ⟨h4, h100, h400⟩ := @div_cycles a b' c' 3 hb' hc' (Nat.le_refl 3)
    rw [hyear]
    show IsDate n (400 * a + 100 * b' + 4 * c' + 3 + 1) 12 31
    refine ⟨by omega, by omega, ⟨by decide, by decide⟩, ⟨by decide, Nat.le_refl 31⟩, ?_⟩
    rw [dayNumber_succ, hbefore, h4, h100, h400]
    omega
  · next hlast =>
    have hfirst : daysBefore (400 * a + 100 * b + 4 * c + d + 1) 1 = 0 := rfl
    have hlen : n % 146097 % 36524 % 1461 % 365 <
        daysBefore (400 * a + 100 * b + 4 * c + d + 1) 13 := by
      rw [daysBefore_thirteen]
      split <;> omega
    obtain ⟨m, day, heq, h₁, h₂, h₃, h₄, hsum⟩ := @monthFrom_spec _ 1 _ 11
      (Nat.le_refl 1) (by omega) (by rwa [hfirst, Nat.zero_add])
    obtain ⟨h4, h100, h400⟩ := @div_cycles a b c d (by omega) (by omega) (by omega)
    rw [heq]
    show IsDate n (400 * a + 100 * b + 4 * c + d + 1) m day
    refine ⟨by omega, by omega, ⟨h₁, h₂⟩, ⟨h₃, h₄⟩, ?_⟩
    rw [dayNumber_succ, h4, h100, h400]
    omega

/-! ## The order of dates -/

theorem daysBefore_le {year month month' : Nat} (hmonth : 1 ≤ month) (h : month ≤ month') :
    daysBefore year month ≤ daysBefore year month' := by
  induction h with
  | refl => exact Nat.le_refl _
  | step h ih =>
    rw [daysBefore_succ (Nat.le_trans hmonth h)]
    exact Nat.le_trans ih (Nat.le_add_right _ _)

section
variable {n n' year year' month month' day day' : Nat}

/-- The day of the year. -/
theorem IsDate.daysBefore_add_le (h : IsDate n year month day) :
    daysBefore year month + day ≤ daysBefore year (month + 1) := by
  rw [daysBefore_succ h.month_range.1]
  exact Nat.add_le_add_left h.day_range.2 _

/-- A day of an earlier year is an earlier day. -/
theorem IsDate.lt_of_year_lt (h : IsDate n year month day) (h' : IsDate n' year' month' day')
    (hlt : year < year') : n < n' := by
  have hday := h.daysBefore_add_le
  have hle := @daysBefore_le year _ _ (Nat.le_add_left 1 month)
    (Nat.succ_le_succ h.month_range.2)
  rw [daysBefore_thirteen] at hle
  have hpos := h'.day_range.1
  obtain ⟨y, rfl⟩ := Nat.exists_eq_add_of_le' h.year_pos
  obtain ⟨y', rfl⟩ := Nat.exists_eq_add_of_le' h'.year_pos
  have hn := h.dayNumber
  have hn' := h'.dayNumber
  rw [dayNumber_succ] at hn hn'
  -- the days of the year are those by which the days before the next one are more
  have hyear : 365 * (y : Int) + (y / 4 : Nat) - (y / 100 : Nat) + (y / 400 : Nat) +
      (if isLeap (y + 1) then 366 else 365 : Nat) ≤
      365 * (y' : Int) + (y' / 4 : Nat) - (y' / 100 : Nat) + (y' / 400 : Nat) := by
    split
    · next hleap =>
      have := isLeap_iff.1 hleap
      omega
    · omega
  omega

theorem IsDate.lt_of_month_lt (h : IsDate n year month day) (h' : IsDate n' year month' day')
    (hlt : month < month') : n < n' := by
  have hday := h.daysBefore_add_le
  have hle := @daysBefore_le year _ _ (Nat.le_add_left 1 month) hlt
  have hpos := h'.day_range.1
  obtain ⟨y, rfl⟩ := Nat.exists_eq_add_of_le' h.year_pos
  have hn := h.dayNumber
  have hn' := h'.dayNumber
  rw [dayNumber_succ] at hn hn'
  omega

/-- Dates are ordered as their days: by the year, then by the month, then by the day. -/
theorem IsDate.lex_lt (h : IsDate n year month day) (h' : IsDate n' year' month' day')
    (hlt : n < n') :
    year < year' ∨ year = year' ∧ (month < month' ∨ month = month' ∧ day < day') := by
  rcases Nat.lt_trichotomy year year' with hyear | rfl | hyear
  · exact .inl hyear
  · refine .inr ⟨rfl, ?_⟩
    rcases Nat.lt_trichotomy month month' with hmonth | rfl | hmonth
    · exact .inl hmonth
    · refine .inr ⟨rfl, ?_⟩
      have hn := h.dayNumber
      have hn' := h'.dayNumber
      unfold Lib.dayNumber at hn hn'
      omega
    · exact absurd (h'.lt_of_month_lt h hmonth) (by omega)
  · exact absurd (h'.lt_of_year_lt h hyear) (by omega)

end

/-! ## The clock -/

/-- The first instant of the year 1 and the one after the last of the year 9999. -/
def IsDatetime (t : Int) : Prop := days (-719162) ≤ t ∧ t < days 2932897

instance : DecidablePred IsDatetime := fun _ => inferInstanceAs (Decidable (_ ∧ _))

/-- Year, month, day, hour, minute and second of an instant. -/
def clockFields (t : Int) : List Nat :=
  let date := dateOf (t / days 1 + 719162).toNat
  let second := (t % days 1 / seconds 1).toNat
  [date.1, date.2.1, date.2.2, second / 3600, second / 60 % 60, second % 60]

/-- The numbers of a clock are ordered as the seconds it shows. -/
theorem clockFields_lt {t t' : Int} (h : IsDatetime t) (hlt : epochSeconds t < epochSeconds t') :
    clockFields t < clockFields t' := by
  have hdate := isDate_dateOf (t / days 1 + 719162).toNat
  have hdate' := isDate_dateOf (t' / days 1 + 719162).toNat
  obtain ⟨hlow, -⟩ := h
  simp only [clockFields, List.cons_lt_cons_iff]
  unfold epochSeconds at hlt
  rcases Nat.lt_or_ge (t / days 1 + 719162).toNat (t' / days 1 + 719162).toNat with hday | hday
  · rcases hdate.lex_lt hdate' hday with hyear | ⟨hyear, hmonth | ⟨hmonth, hday⟩⟩
    · exact .inl hyear
    · exact .inr ⟨hyear, .inl hmonth⟩
    · exact .inr ⟨hyear, .inr ⟨hmonth, .inl hday⟩⟩
  · have hsame : t / days 1 = t' / days 1 := by
      unfold days seconds at *
      omega
    rw [hsame]
    refine .inr ⟨rfl, .inr ⟨rfl, .inr ⟨rfl, ?_⟩⟩⟩
    unfold days seconds at *
    omega

end Lib
