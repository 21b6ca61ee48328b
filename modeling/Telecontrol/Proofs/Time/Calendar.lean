import Telecontrol.Calendar

/-!
# Days and dates

Every day has a date that exists (`Date.isValid_ofDayNumber`), and counting the days up to that
date gives the day again (`Date.dayNumber_ofDayNumber`). The year is found first: a year is given
by its place in spans of 400, 100, 4 and 1 years (`YearParts`), of which only the last of each span
may differ in length. The month is then found by taking the months of the year off one by one.
-/

namespace Telecontrol

/-! ### Years -/

theorem isLeapYear_iff (year : Int) :
    isLeapYear year = true ↔ year % 4 = 0 ∧ (year % 100 ≠ 0 ∨ year % 400 = 0) := by
  simp [isLeapYear]

/-- The place of a year in the spans of the calendar. -/
structure YearParts where
  era : Int
  century : Int
  olympiad : Int
  year : Int

namespace YearParts

/-- The spans are as long as they are in the calendar. -/
structure IsValid (p : YearParts) : Prop where
  century : 0 ≤ p.century ∧ p.century ≤ 3
  olympiad : 0 ≤ p.olympiad ∧ p.olympiad ≤ 24
  year : 0 ≤ p.year ∧ p.year ≤ 3

/-- The year at a place. -/
def number (p : YearParts) : Int := 400 * p.era + 100 * p.century + 4 * p.olympiad + p.year + 1

/-- The days before the year, by spans. -/
theorem daysBeforeYear_number {p : YearParts} (h : p.IsValid) :
    daysBeforeYear p.number =
      146097 * p.era + 36524 * p.century + 1461 * p.olympiad + 365 * p.year := by
  obtain ⟨hcentury, holympiad, hyear⟩ := h
  unfold daysBeforeYear number
  omega

end YearParts

/-- The place of the year of a day. -/
def yearParts (day : Int) : YearParts :=
  let inEra := day % 146097
  let century := min (inEra / 36524) 3
  let inCentury := inEra - 36524 * century
  let inLeap := inCentury % 1461
  ⟨day / 146097, century, inCentury / 1461, min (inLeap / 365) 3⟩

theorem number_yearParts (day : Int) : (yearParts day).number = yearOfDay day := rfl

theorem isValid_yearParts (day : Int) : (yearParts day).IsValid := by
  constructor <;> simp only [yearParts] <;> omega

theorem daysBeforeMonth_end (year : Int) :
    daysBeforeMonth year 13 = 337 + daysInMonth year 2 := by
  have hmonths : daysBeforeMonth year 13 =
      0 + 31 + daysInMonth year 2 + 31 + 30 + 31 + 30 + 31 + 31 + 30 + 31 + 30 + 31 := rfl
  omega

/-- A year has as many days as its months have together. -/
theorem daysBeforeYear_succ (year : Int) :
    daysBeforeYear (year + 1) = daysBeforeYear year + daysBeforeMonth year 13 := by
  have hleap := isLeapYear_iff year
  rw [daysBeforeMonth_end, daysInMonth, if_pos rfl]
  unfold daysBeforeYear
  by_cases h : isLeapYear year = true
  · rw [if_pos h]
    have hyear := hleap.mp h
    omega
  · rw [if_neg h]
    have hyear := mt hleap.mpr h
    omega

namespace YearParts

/-- The last of four years is a leap year, unless it ends a century that does not end an era. -/
theorem isLeapYear_number_iff {p : YearParts} (h : p.IsValid) :
    isLeapYear p.number = true ↔ p.year = 3 ∧ (p.olympiad ≠ 24 ∨ p.century = 3) := by
  obtain ⟨hcentury, holympiad, hyear⟩ := h
  rw [isLeapYear_iff, number]
  omega

end YearParts

/-- A day lies in its year. -/
theorem yearOfDay_bounds (day : Int) :
    daysBeforeYear (yearOfDay day) ≤ day ∧ day < daysBeforeYear (yearOfDay day + 1) := by
  have hvalid := isValid_yearParts day
  have hbefore := YearParts.daysBeforeYear_number hvalid
  have hleap := YearParts.isLeapYear_number_iff hvalid
  rw [daysBeforeYear_succ, daysBeforeMonth_end, daysInMonth, if_pos rfl]
  rw [number_yearParts] at hbefore hleap
  rw [hbefore]
  simp only [yearParts] at hleap ⊢
  constructor
  · omega
  · by_cases h : isLeapYear (yearOfDay day) = true
    · rw [if_pos h]
      have hyear := hleap.mp h
      omega
    · rw [if_neg h]
      have hyear := mt hleap.mpr h
      omega

/-! ### Months -/

theorem daysBeforeMonth_succ {month : Nat} (h : 1 ≤ month) (year : Int) :
    daysBeforeMonth year (month + 1) = daysBeforeMonth year month + daysInMonth year month := by
  rw [daysBeforeMonth, if_neg (Nat.ne_of_gt h)]

theorem daysInMonth_le (year : Int) (month : Nat) : daysInMonth year month ≤ 31 := by
  unfold daysInMonth
  split
  · split <;> decide
  · split <;> decide

/-- The days of a year that are left from a month on are found in one of the months up to the
last. -/
theorem monthAndDay_bounds {year : Int} {left month rest : Nat} (hmonth : 1 ≤ month)
    (hleft : month + left = 12)
    (hrest : daysBeforeMonth year month + rest < daysBeforeMonth year 13) :
    let found := monthAndDay year left month rest
    1 ≤ found.1 ∧ found.1 ≤ 12 ∧ 1 ≤ found.2 ∧ found.2 ≤ daysInMonth year found.1 ∧
      daysBeforeMonth year found.1 + found.2 = daysBeforeMonth year month + rest + 1 := by
  induction left generalizing month rest with
  | zero =>
    -- Only December is left.
    obtain rfl : month = 12 := hleft
    have hend : daysBeforeMonth year 13 = _ := daysBeforeMonth_succ hmonth year
    simp only [monthAndDay]
    omega
  | succ left ih =>
    have hnext := daysBeforeMonth_succ hmonth year
    rw [monthAndDay]
    split
    · simp only
      omega
    · next hlong =>
      have hfound := ih (by omega) (by omega) (by omega : daysBeforeMonth year (month + 1) +
        (rest - daysInMonth year month) < daysBeforeMonth year 13)
      simp only at hfound ⊢
      omega

/-! ### Days -/

namespace Date

/-- The day within its year of a day. -/
theorem ofDayNumber_bounds (day : Int) :
    let d := ofDayNumber day
    1 ≤ d.month ∧ d.month ≤ 12 ∧ 1 ≤ d.day ∧ d.day ≤ daysInMonth d.year d.month ∧
      daysBeforeYear d.year + daysBeforeMonth d.year d.month + d.day = day + epochDays + 1 := by
  obtain ⟨hbefore, hafter⟩ := yearOfDay_bounds (day + epochDays)
  rw [daysBeforeYear_succ] at hafter
  have hzero : daysBeforeMonth (yearOfDay (day + epochDays)) 1 = 0 := rfl
  have hrest : daysBeforeMonth (yearOfDay (day + epochDays)) 1 +
      (day + epochDays - daysBeforeYear (yearOfDay (day + epochDays))).toNat <
        daysBeforeMonth (yearOfDay (day + epochDays)) 13 := by
    omega
  obtain ⟨hlow, hhigh, hfirst, hlast, hsum⟩ :=
    monthAndDay_bounds (Nat.le_refl 1) (rfl : 1 + 11 = 12) hrest
  refine ⟨hlow, hhigh, hfirst, hlast, ?_⟩
  simp only [ofDayNumber]
  omega

/-- The date of a day exists. -/
theorem isValid_ofDayNumber (day : Int) : (ofDayNumber day).IsValid := by
  obtain ⟨hlow, hhigh, hfirst, hlast, -⟩ := ofDayNumber_bounds day
  exact ⟨hlow, hhigh, hfirst, hlast⟩

/-- Counting the days up to the date of a day gives the day. -/
theorem dayNumber_ofDayNumber (day : Int) : (ofDayNumber day).dayNumber = day := by
  obtain ⟨-, -, -, -, hsum⟩ := ofDayNumber_bounds day
  rw [dayNumber]
  omega

end Date

end Telecontrol
