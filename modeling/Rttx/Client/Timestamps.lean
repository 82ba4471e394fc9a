import Rttx.Kernel.CivilDates

/-!
# Timestamps

Documents are stamped with the time at which they are written, and an export is named
after its day.  The date is computed from the days since the epoch, without a table: the
era, the year of the era that begins in March, and the month by a linear formula.

**Results.**
* `marchDay_yearOfEra`: the formula finds the year of every day of an era.
* `daysToYmd_eq`: the date of a day is what the calendar comes to after so many days from
  the first of January 1970.
-/

namespace Rttx
namespace Client

open Kernel

section Formula

/-- The year, the month and the day. -/
def daysToYmd (days : Nat) : Date :=
  let days := days + 719468
  let era := days / 146097
  let doe := days % 146097
  let yoe := (doe - doe / 1460 + doe / 36524 - doe / 146096) / 365
  let y := yoe + era * 400
  let doy := doe - (365 * yoe + yoe / 4 - yoe / 100)
  let mp := (5 * doy + 2) / 153
  let d := doy - (153 * mp + 2) / 5 + 1
  let m := if mp < 10 then mp + 3 else mp - 9
  let y := if m ≤ 2 then y + 1 else y
  ⟨y, m, d⟩

/-- The year of the era in which a day lies. -/
def yearOfEra (doe : Nat) : Nat :=
  (doe - doe / 1460 + doe / 36524 - doe / 146096) / 365

theorem daysToYmd_eq_marchDate (days : Nat) :
    daysToYmd days =
      marchDate (yearOfEra ((days + 719468) % 146097) + (days + 719468) / 146097 * 400)
        ((days + 719468) % 146097 - marchYearStart (yearOfEra ((days + 719468) % 146097))) :=
  rfl

end Formula

section Years

/-- But for the last one, a day of an era lies in a century of it, and there in a cycle of
four years. -/
theorem exists_cycle {doe : Nat}
    (h : doe < 146096) :
    ∃ c k t, c < 4 ∧ k < 25 ∧ t < 1461 ∧ 1461 * k + t < 36524 ∧
      doe = 36524 * c + 1461 * k + t := by
  refine ⟨doe / 36524, doe % 36524 / 1461, doe % 36524 % 1461, ?_, ?_, ?_, ?_, ?_⟩ <;> omega

/-- The formula takes from the days the leap days of the years before, or one more at the end of
a year. -/
theorem yearOfEra_cycle {c k t : Nat}
    (hc : c < 4)
    (hk : k < 25)
    (ht : t < 1461)
    (hcentury : 1461 * k + t < 36524) :
    yearOfEra (36524 * c + 1461 * k + t) = 100 * c + 4 * k + min (t / 365) 3 := by
  generalize hdoe : 36524 * c + 1461 * k + t = doe
  have hcycles : doe / 1460 = 25 * c + k + (24 * c + k + t) / 1460 := by
    have hsplit : doe = 24 * c + k + t + 1460 * (25 * c + k) := by omega
    rw [hsplit, Nat.add_mul_div_left _ _ (by decide)]
    omega
  have hcenturies : doe / 36524 = c := by
    rw [← hdoe, Nat.add_assoc, Nat.mul_add_div (by decide), Nat.div_eq_of_lt hcentury,
      Nat.add_zero]
  have heras : doe / 146096 = 0 := Nat.div_eq_of_lt (by omega)
  rw [yearOfEra]
  obtain hzero | hone : (24 * c + k + t) / 1460 = 0 ∨
      ((24 * c + k + t) / 1460 = 1 ∧ 1364 ≤ t) := by omega
  · have hdays : doe - doe / 1460 + doe / 36524 - doe / 146096 =
        365 * (100 * c + 4 * k) + t := by omega
    rw [hdays, Nat.mul_add_div (by decide)]
    omega
  · have hdays : doe - doe / 1460 + doe / 36524 - doe / 146096 =
        365 * (100 * c + 4 * k) + (t - 1) := by omega
    rw [hdays, Nat.mul_add_div (by decide)]
    omega

/-- **The formula finds the year of every day of an era.** -/
theorem marchDay_yearOfEra {doe : Nat}
    (h : doe < 146097) :
    MarchDay doe (yearOfEra doe) (doe - marchYearStart (yearOfEra doe)) := by
  obtain rfl | hlt := Nat.eq_or_lt_of_le (Nat.le_of_lt_succ h)
  · exact ⟨by decide, by decide, by decide⟩
  · obtain ⟨c, k, t, hc, hk, ht, hcentury, rfl⟩ := exists_cycle hlt
    rw [yearOfEra_cycle hc hk ht hcentury]
    have hj : min (t / 365) 3 < 4 := by omega
    generalize hjt : min (t / 365) 3 = j at hj
    have hstart : marchYearStart (100 * c + 4 * k + j) = 36524 * c + 1461 * k + 365 * j := by
      unfold marchYearStart
      omega
    have hday : 365 * j ≤ t := by omega
    refine ⟨by omega, ?_, ?_⟩
    · rw [hstart, marchYearLength]
      by_cases hlast : t = 1460
      · have hleap : isLeapYear (100 * c + 4 * k + j + 1) := by
          unfold isLeapYear
          omega
        rw [if_pos hleap]
        omega
      · split <;> omega
    · rw [hstart]
      omega

end Years

section Calendars

theorem marchYearLength_add_eras (yoe era : Nat) :
    marchYearLength (yoe + era * 400) = marchYearLength yoe := by
  have hleap : isLeapYear (yoe + era * 400 + 1) ↔ isLeapYear (yoe + 1) := by
    unfold isLeapYear
    omega
  rw [marchYearLength, marchYearLength]
  exact if_congr hleap rfl rfl

/-- The date of a day by its place in an era. -/
theorem daysToYmd_of_marchDay {days era doe yoe doy : Nat}
    (hdays : days + 719468 = doe + 146097 * era)
    (h : MarchDay doe yoe doy) :
    daysToYmd days = marchDate (yoe + era * 400) doy := by
  have hdoe := marchDay_lt h
  obtain ⟨hyear, hday⟩ := (marchDay_yearOfEra hdoe).unique h
  have hmod : (doe + 146097 * era) % 146097 = doe := by
    rw [Nat.add_mul_mod_self_left, Nat.mod_eq_of_lt hdoe]
  have hdiv : (doe + 146097 * era) / 146097 = era := by
    rw [Nat.add_mul_div_left _ _ (by decide), Nat.div_eq_of_lt hdoe, Nat.zero_add]
  rw [daysToYmd_eq_marchDate, hdays, hmod, hdiv, hday, hyear]

/-- **The next day has the next date.** -/
theorem daysToYmd_succ (days : Nat) : daysToYmd (days + 1) = (daysToYmd days).next := by
  generalize hera : (days + 719468) / 146097 = era
  generalize hdoe : (days + 719468) % 146097 = doe
  have hlt : doe < 146097 := by omega
  have hdays : days + 719468 = doe + 146097 * era := by omega
  obtain ⟨yoe, doy, hday⟩ : ∃ yoe doy, MarchDay doe yoe doy := ⟨_, _, marchDay_yearOfEra hlt⟩
  have hlength := marchYearLength_add_eras yoe era
  have hstart := hday.start_add
  rw [daysToYmd_of_marchDay hdays hday]
  obtain ⟨hmore, hnext⟩ | ⟨hend, hyear, hnext⟩ | ⟨hend, rfl, hlast⟩ := hday.next
  · rw [← hlength] at hmore
    have hdays' : days + 1 + 719468 = doe + 1 + 146097 * era := by omega
    rw [daysToYmd_of_marchDay hdays' hnext, marchDate_next hmore]
  · rw [← hlength] at hend
    have hdays' : days + 1 + 719468 = doe + 1 + 146097 * era := by omega
    rw [daysToYmd_of_marchDay hdays' hnext, marchDate_next_year hend, Nat.add_right_comm]
  · rw [← hlength] at hend
    have hfirst : MarchDay 0 0 0 := ⟨by decide, by decide, by decide⟩
    have hdays' : days + 1 + 719468 = 0 + 146097 * (era + 1) := by omega
    have hyears : 0 + (era + 1) * 400 = 399 + era * 400 + 1 := by omega
    rw [daysToYmd_of_marchDay hdays' hfirst, marchDate_next_year hend, hyears]

/-- **The date of a day** is what the calendar comes to after so many days from the first of
January 1970. -/
theorem daysToYmd_eq (days : Nat) : daysToYmd days = Date.next^[days] ⟨1970, 1, 1⟩ := by
  induction days with
  | zero => rfl
  | succ days ih => rw [daysToYmd_succ, ih, Function.iterate_succ_apply']

end Calendars

end Client
end Rttx
