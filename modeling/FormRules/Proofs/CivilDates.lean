import FormRules.Calendar.DateTime
import Mathlib.Tactic.IntervalCases

/-!
# Years, months and days

Year, month and day of the month say which day is meant: the number of a day is
computed back from them.  An era of 400 years is cut into centuries, four-year
cycles, years and days, each year starting in March, so that every leap day is
the last day of its part.
-/

namespace FormRules.Calendar

/-! ## Days of an era -/

/-- A day of an era by the century that it lies in, the cycle of four years in this, the year and
the day of the year.  Only the last year of a cycle has a 366th day; in the last cycle of a century
it has one only in the last century. -/
structure EraDay where
  century : Nat
  cycle : Nat
  year : Nat
  day : Nat
  century_le : century ≤ 3
  cycle_le : cycle ≤ 24
  year_le : year ≤ 3
  day_le : day ≤ 365
  leap : day = 365 → year = 3 ∧ (cycle = 24 → century = 3)

namespace EraDay

/-- The days of the era before a day. -/
def number (e : EraDay) : Nat :=
  36524 * e.century + 1461 * e.cycle + 365 * e.year + e.day

/-- The years of the era before a day. -/
def years (e : EraDay) : Nat :=
  100 * e.century + 4 * e.cycle + e.year

def month (e : EraDay) : Nat :=
  (5 * e.day + 2) / 153

def dayOfMonth (e : EraDay) : Nat :=
  e.day - (153 * e.month + 2) / 5 + 1

theorem exists_number {n : Nat} (h : n < 146097) : ∃ e : EraDay, e.number = n := by
  let century := min (n / 36524) 3
  let inCentury := n - 36524 * century
  let cycle := inCentury / 1461
  let inCycle := inCentury - 1461 * cycle
  let year := min (inCycle / 365) 3
  refine ⟨⟨century, cycle, year, inCycle - 365 * year, ?_, ?_, ?_, ?_, ?_⟩, ?_⟩
  · omega
  · omega
  · omega
  · omega
  · omega
  · simp only [number]
    omega

variable (e : EraDay)

theorem years_lt : e.years < 400 := by
  have century := e.century_le
  have cycle := e.cycle_le
  have year := e.year_le
  unfold years
  omega

theorem month_le : e.month ≤ 11 := by
  have day := e.day_le
  unfold month
  omega

theorem number_lt : e.number < 146097 := by
  have century := e.century_le
  have cycle := e.cycle_le
  have year := e.year_le
  have day := e.day_le
  have leap := e.leap
  unfold number
  omega

/-- The days before the year of a day. -/
theorem days_years : 365 * e.years + e.years / 4 - e.years / 100 + e.day = e.number := by
  have cycle := e.cycle_le
  have year := e.year_le
  have fourth : e.years / 4 = 25 * e.century + e.cycle := by
    unfold years
    omega
  have hundredth : e.years / 100 = e.century := by
    unfold years
    omega
  rw [fourth, hundredth]
  unfold years number
  omega

/-- The year of a day is found by dividing by 365, once the leap days before it are left out. -/
theorem years_eq :
    (e.number - e.number / 1460 + e.number / 36524 - e.number / 146096) / 365 = e.years := by
  have century := e.century_le
  have cycle := e.cycle_le
  have year := e.year_le
  have day := e.day_le
  have leap := e.leap
  have last : e.number / 36524 = e.century + e.number / 146096 := by
    unfold number
    by_cases full : e.day = 365 ∧ e.cycle = 24
    · obtain ⟨endOfYear, endOfCentury⟩ := full
      have endOfEra := (leap endOfYear).2 endOfCentury
      omega
    · have inCentury : 1461 * e.cycle + 365 * e.year + e.day < 36524 := by omega
      have inEra : 36524 * e.century + (1461 * e.cycle + 365 * e.year + e.day) < 146096 := by
        omega
      omega
  -- In the last year of a cycle one day more is left out: the 366th or, late in an era, one before.
  have left : ∃ out ≤ e.day, e.day ≤ out + 364 ∧
      e.number / 1460 = 25 * e.century + e.cycle + out := by
    by_cases late : 1460 ≤ 24 * e.century + e.cycle + 365 * e.year + e.day
    · refine ⟨1, ?_, ?_, ?_⟩
      · omega
      · omega
      · unfold number
        omega
    · refine ⟨0, ?_, ?_, ?_⟩
      · omega
      · omega
      · unfold number
        omega
  obtain ⟨out, le, day_le, fourth⟩ := left
  have rest : e.number - e.number / 1460 + e.number / 36524 - e.number / 146096 =
      365 * e.years + (e.day - out) := by
    rw [last, fourth]
    unfold number years
    omega
  rw [rest]
  omega

end EraDay

/-! ## Days by year, month and day of the month -/

theorem exists_eraDay (days : Int) :
    ∃ (era : Int) (e : EraDay), days = era * 146097 + e.number - 719468 := by
  obtain ⟨e, number⟩ : ∃ e : EraDay, e.number = ((days + 719468) % 146097).toNat :=
    EraDay.exists_number (by omega)
  exact ⟨(days + 719468) / 146097, e, by omega⟩

variable (era : Int) (e : EraDay)

theorem civil_eraDay :
    civil (era * 146097 + e.number - 719468) =
      if e.month < 10 then ⟨e.years + era * 400, e.month + 3, e.dayOfMonth⟩
      else ⟨e.years + era * 400 + 1, e.month - 9, e.dayOfMonth⟩ := by
  have inEra := e.number_lt
  have place : (era * 146097 + e.number - 719468 + 719468) / 146097 = era := by omega
  have rest : ((era * 146097 + e.number - 719468 + 719468) % 146097).toNat = e.number := by omega
  have day : e.number - (365 * e.years + e.years / 4 - e.years / 100) = e.day := by
    have days := e.days_years
    omega
  have month := e.month_le
  simp only [civil, place, rest, e.years_eq, day]
  by_cases spring : (5 * e.day + 2) / 153 < 10
  · simp only [EraDay.month, EraDay.dayOfMonth, spring, if_true]
    rw [if_neg (by omega)]
  · simp only [EraDay.month, EraDay.dayOfMonth, spring, if_false] at month ⊢
    rw [if_pos (by omega)]

theorem dayNumber_eraDay {year : Int} {month : Nat}
    (named : if e.month < 10 then year = e.years + era * 400 ∧ month = e.month + 3
      else year = e.years + era * 400 + 1 ∧ month = e.month - 9) :
    dayNumber year month e.dayOfMonth = era * 146097 + e.number - 719468 := by
  have last := e.month_le
  have march : (month + 9) % 12 = e.month ∧
      (if month ≤ 2 then year - 1 else year) = e.years + era * 400 := by
    split at named
    · obtain ⟨rfl, rfl⟩ := named
      rw [if_neg (by omega)]
      omega
    · obtain ⟨rfl, rfl⟩ := named
      rw [if_pos (by omega)]
      omega
  have inEra := e.years_lt
  have place : (e.years + era * 400) / 400 = era := by omega
  have rest : (e.years + era * 400) % 400 = e.years := by omega
  have days := e.days_years
  have first : (153 * e.month + 2) / 5 ≤ e.day := by
    unfold EraDay.month
    omega
  simp only [dayNumber, march, place, rest]
  unfold EraDay.dayOfMonth
  push_cast [first]
  omega

theorem dayNumber_civil (days : Int) :
    dayNumber (civil days).year (civil days).month (civil days).day = days := by
  obtain ⟨era, e, rfl⟩ := exists_eraDay days
  rw [civil_eraDay]
  by_cases spring : e.month < 10
  · rw [if_pos spring]
    exact dayNumber_eraDay era e (by simp [spring])
  · rw [if_neg spring]
    exact dayNumber_eraDay era e (by simp [spring])

/-- The last day of a leap year that starts in March falls into a leap year. -/
theorem isLeap_eraDay (full : e.day = 365) : isLeap (e.years + era * 400 + 1) = true := by
  obtain ⟨year, century⟩ := e.leap full
  have cycle := e.cycle_le
  have century_le := e.century_le
  have fourth : ((e.years : Int) + era * 400 + 1) % 4 = 0 := by
    unfold EraDay.years
    omega
  have hundredth : ((e.years : Int) + era * 400 + 1) % 100 = 0 →
      ((e.years : Int) + era * 400 + 1) % 400 = 0 := by
    unfold EraDay.years
    omega
  simp only [isLeap, fourth, decide_true, Bool.true_and, Bool.or_eq_true, decide_eq_true_eq]
  by_cases h : ((e.years : Int) + era * 400 + 1) % 100 = 0
  · exact .inr (hundredth h)
  · exact .inl h

/-- Every month but February is as long as its place in a year that starts in March says. -/
theorem daysInMonth_march (year : Int) {mp : Nat} (h : mp ≤ 10) :
    (153 * mp + 2) / 5 + daysInMonth year (if mp < 10 then mp + 3 else mp - 9) =
      (153 * (mp + 1) + 2) / 5 := by
  interval_cases mp <;> rfl

theorem dayOfMonth_le_february (h : e.month = 11) :
    e.dayOfMonth ≤ daysInMonth (e.years + era * 400 + 1) 2 := by
  have last := e.day_le
  have leap := isLeap_eraDay era e
  simp only [EraDay.dayOfMonth, h, daysInMonth]
  by_cases full : e.day = 365
  · rw [if_pos (leap full)]
    omega
  · split <;> omega

theorem dayOfMonth_le (year : Int) (h : e.month ≤ 10) :
    e.dayOfMonth ≤ daysInMonth year (if e.month < 10 then e.month + 3 else e.month - 9) := by
  have length := daysInMonth_march year h
  have start : (153 * e.month + 2) / 5 ≤ e.day := by
    unfold EraDay.month
    omega
  have next : 5 * e.day + 2 < 153 * (e.month + 1) := by
    unfold EraDay.month
    omega
  unfold EraDay.dayOfMonth
  omega

theorem civil_month_range (days : Int) :
    1 ≤ (civil days).month ∧ (civil days).month ≤ 12 := by
  obtain ⟨era, e, rfl⟩ := exists_eraDay days
  have last := e.month_le
  rw [civil_eraDay]
  split <;> simp only <;> omega

theorem civil_day_range (days : Int) :
    1 ≤ (civil days).day ∧ (civil days).day ≤ daysInMonth (civil days).year (civil days).month := by
  obtain ⟨era, e, rfl⟩ := exists_eraDay days
  have first : 1 ≤ e.dayOfMonth := Nat.le_add_left 1 _
  have last := e.month_le
  rw [civil_eraDay]
  by_cases spring : e.month < 10
  · have le := dayOfMonth_le e (e.years + era * 400) (by omega)
    rw [if_pos spring] at le ⊢
    exact ⟨first, le⟩
  · rw [if_neg spring]
    by_cases february : e.month = 11
    · have le := dayOfMonth_le_february era e february
      simp only [february]
      exact ⟨first, le⟩
    · have le := dayOfMonth_le e (e.years + era * 400 + 1) (by omega)
      rw [if_neg spring] at le
      exact ⟨first, le⟩

theorem daysInMonth_le (year : Int) (month : Nat) : daysInMonth year month ≤ 31 := by
  unfold daysInMonth
  split
  · split <;> decide
  all_goals decide

/-! ## Years -/

/-- Before a year there are 365 days for every earlier one, and the leap days. -/
theorem dayNumber_new_year (year : Int) :
    dayNumber year 1 1 =
      365 * (year - 1) + (year - 1) / 4 - (year - 1) / 100 + (year - 1) / 400 - 719162 := by
  simp only [dayNumber]
  omega

theorem dayNumber_new_year_lt {a b : Int} (h : a < b) : dayNumber a 1 1 < dayNumber b 1 1 := by
  simp only [dayNumber_new_year]
  omega

theorem dayNumber_new_year_le {a b : Int} (h : a ≤ b) : dayNumber a 1 1 ≤ dayNumber b 1 1 := by
  rcases Int.lt_or_eq_of_le h with later | rfl
  · exact Int.le_of_lt (dayNumber_new_year_lt later)
  · exact Int.le_refl _

theorem dayNumber_in_year (year : Int) {month day : Nat} (month_le : 1 ≤ month ∧ month ≤ 12)
    (day_le : 1 ≤ day ∧ day ≤ 31) :
    dayNumber year 1 1 ≤ dayNumber year month day ∧
      dayNumber year month day < dayNumber (year + 1) 1 1 := by
  rw [dayNumber_new_year, dayNumber_new_year]
  by_cases winter : month ≤ 2
  · simp only [dayNumber, if_pos winter]
    omega
  · simp only [dayNumber, if_neg winter]
    omega

theorem civil_in_year (days : Int) :
    dayNumber (civil days).year 1 1 ≤ days ∧ days < dayNumber ((civil days).year + 1) 1 1 := by
  have day := civil_day_range days
  have inYear := dayNumber_in_year (civil days).year (civil_month_range days)
    ⟨day.1, day.2.trans (daysInMonth_le _ _)⟩
  rwa [dayNumber_civil] at inYear

/-- A day lies in a year or a later one if it is not before the first day of the year. -/
theorem le_civil_year_iff {year days : Int} :
    year ≤ (civil days).year ↔ dayNumber year 1 1 ≤ days := by
  obtain ⟨first, last⟩ := civil_in_year days
  constructor
  · intro h
    exact Int.le_trans (dayNumber_new_year_le h) first
  · intro h
    by_contra earlier
    have next : dayNumber ((civil days).year + 1) 1 1 ≤ dayNumber year 1 1 :=
      dayNumber_new_year_le (by omega)
    omega

end FormRules.Calendar

/-! ## Dates -/

namespace FormRules.Date

open Calendar

/-- A date is found again by its year, month and day of the month. -/
theorem ofCivil?_civil (d : Date) :
    ofCivil? d.civil.year d.civil.month d.civil.day = some d := by
  have month := civil_month_range d.days
  have day := civil_day_range d.days
  unfold ofCivil?
  rw [if_pos ⟨month.1, month.2, day.1, day.2⟩]
  unfold civil
  rw [dayNumber_civil, ofDays?, dif_pos d.inRange]

theorem civil_ranges (d : Date) : 1 ≤ d.civil.month ∧ d.civil.month ≤ 12 ∧
    1 ≤ d.civil.day ∧ d.civil.day ≤ 31 := by
  have month := civil_month_range d.days
  have day := civil_day_range d.days
  exact ⟨month.1, month.2, day.1, day.2.trans (daysInMonth_le _ _)⟩

def FourDigits (d : Date) : Prop :=
  0 ≤ d.civil.year ∧ d.civil.year < 10000

theorem exists_fourDigits {days : Int} (first : dayNumber 0 1 1 ≤ days)
    (last : days < dayNumber 10000 1 1) :
    ∃ d, ofDays? days = some d ∧ d.FourDigits := by
  have inRange : firstDay ≤ days ∧ days ≤ lastDay := by
    have lower : firstDay ≤ dayNumber 0 1 1 := by decide
    have upper : dayNumber 10000 1 1 ≤ lastDay := by decide
    omega
  refine ⟨⟨days, inRange⟩, dif_pos inRange, le_civil_year_iff.mpr first, ?_⟩
  apply Int.lt_of_not_ge
  intro later
  exact Int.not_lt.mpr (le_civil_year_iff.mp later) last

theorem days_in_years {d : Date} (first : 1 ≤ d.civil.year) (last : d.civil.year ≤ 9998) :
    dayNumber 1 1 1 ≤ d.days ∧ d.days < dayNumber 9999 1 1 := by
  have next : dayNumber (d.civil.year + 1) 1 1 ≤ dayNumber 9999 1 1 :=
    dayNumber_new_year_le (Int.add_le_add_right last 1)
  exact ⟨le_civil_year_iff.mp first, Int.lt_of_lt_of_le (civil_in_year d.days).2 next⟩

/-- The day after a date and the day before lie in its year or in a year next to it. -/
theorem neighbours_fourDigits {d : Date} (first : 1 ≤ d.civil.year) (last : d.civil.year ≤ 9998) :
    (∃ after, ofDays? (d.days + 1) = some after ∧ after.FourDigits) ∧
      ∃ before, ofDays? (d.days - 1) = some before ∧ before.FourDigits := by
  obtain ⟨lower, upper⟩ := days_in_years first last
  have zero : dayNumber 0 1 1 < dayNumber 1 1 1 := dayNumber_new_year_lt (by decide)
  have next : dayNumber 9999 1 1 < dayNumber 10000 1 1 := dayNumber_new_year_lt (by decide)
  exact ⟨exists_fourDigits (by omega) (by omega), exists_fourDigits (by omega) (by omega)⟩

end FormRules.Date
