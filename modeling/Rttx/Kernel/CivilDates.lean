import Mathlib.Order.Monotone.Basic
import Mathlib.Tactic.IntervalCases

/-!
# Kernel: civil dates

Dates of the Gregorian calendar, and the date of the next day.

For counting, a year begins in March, so that a leap day is the last day of its year.
Four hundred years make an era, and all eras have the same number of days.

**Results.**
* `MarchDay.unique`: a day of an era is in one of its years only.
* `MarchDay.next`: the day after it is in that year, or the first one of the next.
* `marchDate_next`, `marchDate_next_year`: the days of a year, one after the other, have the
  dates of the calendar.
-/

namespace Rttx
namespace Kernel

section Calendar

structure Date where
  year : Nat
  month : Nat
  day : Nat
deriving DecidableEq, Repr

def isLeapYear (year : Nat) : Prop :=
  year % 4 = 0 ∧ (year % 100 ≠ 0 ∨ year % 400 = 0)

instance (year : Nat) : Decidable (isLeapYear year) :=
  inferInstanceAs (Decidable (_ ∧ _))

def monthLength (year month : Nat) : Nat :=
  if month = 2 then
    if isLeapYear year then 29 else 28
  else if month = 4 ∨ month = 6 ∨ month = 9 ∨ month = 11 then 30
  else 31

/-- The date of the next day. -/
def Date.next (date : Date) : Date :=
  if date.day < monthLength date.year date.month then ⟨date.year, date.month, date.day + 1⟩
  else if date.month < 12 then ⟨date.year, date.month + 1, 1⟩
  else ⟨date.year + 1, 1, 1⟩

end Calendar

section MarchYears

/-- The days of an era before a year of it, which begins in March. -/
def marchYearStart (yoe : Nat) : Nat :=
  365 * yoe + yoe / 4 - yoe / 100

/-- It ends with February of the next calendar year. -/
def marchYearLength (yoe : Nat) : Nat :=
  if isLeapYear (yoe + 1) then 366 else 365

/-- The day `doe` of an era is the day `doy` of its year `yoe`. -/
structure MarchDay (doe yoe doy : Nat) : Prop where
  year_lt : yoe < 400
  day_lt : doy < marchYearLength yoe
  start_add : marchYearStart yoe + doy = doe

/-- A year begins where the one before ends. -/
theorem marchYearStart_succ {yoe : Nat}
    (h : yoe + 1 < 400) :
    marchYearStart (yoe + 1) = marchYearStart yoe + marchYearLength yoe := by
  rw [marchYearLength]
  by_cases hleap : isLeapYear (yoe + 1)
  · rw [if_pos hleap]
    unfold isLeapYear at hleap
    unfold marchYearStart
    omega
  · rw [if_neg hleap]
    unfold isLeapYear at hleap
    unfold marchYearStart
    omega

theorem marchYearStart_mono : Monotone marchYearStart := by
  refine monotone_nat_of_le_succ fun yoe => ?_
  unfold marchYearStart
  omega

/-- **A day is in one year only.** -/
theorem MarchDay.unique {doe yoe doy yoe' doy' : Nat}
    (h : MarchDay doe yoe doy)
    (h' : MarchDay doe yoe' doy') :
    yoe = yoe' ∧ doy = doy' := by
  have hnot : ∀ y d y' d', MarchDay doe y d → MarchDay doe y' d' → ¬ y < y' := by
    intro y d y' d' hday hday' hlt
    have hnext := marchYearStart_succ (Nat.lt_of_le_of_lt hlt hday'.year_lt)
    have hmono : marchYearStart (y + 1) ≤ marchYearStart y' := marchYearStart_mono hlt
    have hstart := hday.start_add
    have hstart' := hday'.start_add
    have hday := hday.day_lt
    omega
  have hyear : yoe = yoe' :=
    Nat.le_antisymm (Nat.not_lt.mp (hnot _ _ _ _ h' h)) (Nat.not_lt.mp (hnot _ _ _ _ h h'))
  subst hyear
  have hstart := h.start_add
  have hstart' := h'.start_add
  exact ⟨rfl, by omega⟩

/-- The days of an era. -/
theorem marchDay_lt {doe yoe doy : Nat}
    (h : MarchDay doe yoe doy) :
    doe < 146097 := by
  obtain ⟨hyear, hday, rfl⟩ := h
  obtain hlt | rfl := Nat.lt_or_eq_of_le (Nat.le_of_lt_succ hyear)
  · have hnext := marchYearStart_succ (Nat.succ_lt_succ hlt)
    have hmono : marchYearStart (yoe + 1) ≤ marchYearStart 399 := marchYearStart_mono hlt
    have hlast : marchYearStart 399 = 145731 := rfl
    omega
  · have hlength : marchYearLength 399 = 366 := rfl
    have hlast : marchYearStart 399 = 145731 := rfl
    omega

/-- **The next day** is in the same year or the first one of the next year, but for the last
day of the era. -/
theorem MarchDay.next {doe yoe doy : Nat}
    (h : MarchDay doe yoe doy) :
    (doy + 1 < marchYearLength yoe ∧ MarchDay (doe + 1) yoe (doy + 1)) ∨
      (doy + 1 = marchYearLength yoe ∧ yoe + 1 < 400 ∧ MarchDay (doe + 1) (yoe + 1) 0) ∨
      (doy + 1 = marchYearLength yoe ∧ yoe = 399 ∧ doe = 146096) := by
  obtain ⟨hyear, hday, hstart⟩ := h
  obtain hlt | heq := Nat.lt_or_eq_of_le (Nat.succ_le_of_lt hday)
  · exact Or.inl ⟨hlt, hyear, hlt, by omega⟩
  · obtain hmore | hlast := Nat.lt_or_eq_of_le (Nat.succ_le_of_lt hyear)
    · refine Or.inr (Or.inl ⟨heq, hmore, hmore, ?_, ?_⟩)
      · rw [marchYearLength]
        split <;> decide
      · rw [marchYearStart_succ hmore]
        omega
    · obtain rfl : yoe = 399 := Nat.succ.inj hlast
      have hlength : marchYearLength 399 = 366 := rfl
      have hbegin : marchYearStart 399 = 145731 := rfl
      exact Or.inr (Or.inr ⟨heq, rfl, by omega⟩)

/-- The month of a day of the year, from March on. -/
def marchMonth (doy : Nat) : Nat :=
  (5 * doy + 2) / 153

/-- The first day of a month. -/
def marchMonthStart (mp : Nat) : Nat :=
  (153 * mp + 2) / 5

def calendarMonth (mp : Nat) : Nat :=
  if mp < 10 then mp + 3 else mp - 9

/-- The date of a day of the year that begins in March of `year`. -/
def marchDate (year doy : Nat) : Date :=
  let mp := marchMonth doy
  let month := calendarMonth mp
  ⟨if month ≤ 2 then year + 1 else year, month, doy - marchMonthStart mp + 1⟩

theorem marchMonth_eq_iff {doy mp : Nat} :
    marchMonth doy = mp ↔ marchMonthStart mp ≤ doy ∧ doy < marchMonthStart (mp + 1) := by
  unfold marchMonth marchMonthStart
  omega

/-- The months but for February. -/
theorem monthLength_calendarMonth {mp : Nat}
    (h : mp < 11)
    (year : Nat) :
    marchMonthStart mp + monthLength year (calendarMonth mp) = marchMonthStart (mp + 1) := by
  interval_cases mp <;> rfl

/-- The date of a day of a month. -/
theorem marchDate_eq {doy mp : Nat}
    (h : marchMonth doy = mp)
    (year : Nat) :
    marchDate year doy =
      ⟨if calendarMonth mp ≤ 2 then year + 1 else year, calendarMonth mp,
        doy - marchMonthStart mp + 1⟩ := by
  rw [marchDate, h]

/-- After the last day of a month but February the next one begins. -/
theorem next_lastDay {mp : Nat}
    (h : mp < 11)
    (year : Nat) :
    (Date.mk (if calendarMonth mp ≤ 2 then year + 1 else year) (calendarMonth mp)
        (monthLength year (calendarMonth mp))).next =
      ⟨if calendarMonth (mp + 1) ≤ 2 then year + 1 else year, calendarMonth (mp + 1), 1⟩ := by
  interval_cases mp <;> rfl

/-- February ends the year. -/
theorem monthLength_february (year : Nat) :
    marchMonthStart 11 + monthLength (year + 1) 2 = marchYearLength year := by
  rw [monthLength, if_pos rfl, marchYearLength]
  split <;> rfl

theorem marchYearLength_le (year : Nat) : marchYearLength year ≤ 366 := by
  rw [marchYearLength]
  split <;> decide

/-- A day that is not the last one of its month. -/
theorem next_of_lt {year month day : Nat}
    (h : day < monthLength year month) :
    (Date.mk year month day).next = ⟨year, month, day + 1⟩ :=
  if_pos h

/-- **Within a year the days have the dates of the calendar.** -/
theorem marchDate_next {year doy : Nat}
    (h : doy + 1 < marchYearLength year) :
    (marchDate year doy).next = marchDate year (doy + 1) := by
  have hle := marchYearLength_le year
  obtain ⟨hstart, hend⟩ := marchMonth_eq_iff.mp (rfl : marchMonth doy = marchMonth doy)
  generalize hmp : marchMonth doy = mp at hstart hend
  have hmonth : mp ≤ 11 := by
    unfold marchMonth at hmp
    omega
  -- Within a month the day follows, and then the month; February ends the year.
  by_cases hsame : marchMonth (doy + 1) = mp
  · have hlast := (marchMonth_eq_iff.mp hsame).2
    have hday : doy - marchMonthStart mp + 1 <
        monthLength (if calendarMonth mp ≤ 2 then year + 1 else year) (calendarMonth mp) := by
      obtain rfl | hlt := Nat.eq_or_lt_of_le hmonth
      · have hlength := monthLength_february year
        change _ < monthLength (year + 1) 2
        omega
      · have hlength := monthLength_calendarMonth hlt
          (if calendarMonth mp ≤ 2 then year + 1 else year)
        omega
    have hnext : doy + 1 - marchMonthStart mp + 1 = doy - marchMonthStart mp + 1 + 1 := by omega
    rw [marchDate_eq hmp, marchDate_eq hsame, next_of_lt hday, hnext]
  · have hlast : doy + 1 = marchMonthStart (mp + 1) := by
      rw [marchMonth_eq_iff] at hsame
      omega
    have hlt : mp < 11 := by
      refine Nat.lt_of_le_of_ne hmonth fun heq => hsame ?_
      subst heq
      unfold marchMonth
      unfold marchMonthStart at hlast
      omega
    have hnext : marchMonth (doy + 1) = mp + 1 := by
      rw [marchMonth_eq_iff, hlast]
      unfold marchMonthStart
      omega
    have hlength := monthLength_calendarMonth hlt year
    have hday : doy - marchMonthStart mp + 1 = monthLength year (calendarMonth mp) := by omega
    have hfirst : doy + 1 - marchMonthStart (mp + 1) + 1 = 1 := by omega
    rw [marchDate_eq hmp, marchDate_eq hnext, hday, hfirst]
    exact next_lastDay hlt year

/-- **After the last day of a year the next year begins.** -/
theorem marchDate_next_year {year doy : Nat}
    (h : doy + 1 = marchYearLength year) :
    (marchDate year doy).next = marchDate (year + 1) 0 := by
  have hle := marchYearLength_le year
  have hge : 365 ≤ marchYearLength year := by
    rw [marchYearLength]
    split <;> decide
  have hmp : marchMonth doy = 11 := by
    unfold marchMonth
    omega
  have hlength := monthLength_february year
  have hday : doy - marchMonthStart 11 + 1 = monthLength (year + 1) 2 := by
    have hstart : marchMonthStart 11 = 337 := rfl
    omega
  rw [marchDate_eq hmp, hday]
  change (Date.mk (year + 1) 2 (monthLength (year + 1) 2)).next = Date.mk (year + 1) 3 1
  rw [Date.next, if_neg (Nat.lt_irrefl _)]
  rfl

end MarchYears

end Kernel
end Rttx
