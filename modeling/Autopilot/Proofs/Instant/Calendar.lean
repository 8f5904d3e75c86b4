import Autopilot.Instant.Calendar
import Mathlib.Tactic.IntervalCases

/-!
The calendar as a numbering of the days. Four hundred years make an era, which always has as
many days; the day of an era determines the year, and the day of a year the month. So every
day has a date, which is valid as far as its year is, and the date leads back to the day.
-/

namespace Autopilot.Calendar

/-! ## Years of an era -/

/-- The year of an era that a day of the era belongs to. -/
def yearOfEra (dayOfEra : Nat) : Nat :=
  (dayOfEra - dayOfEra / 1460 + dayOfEra / 36524 - dayOfEra / 146096) / 365

/-- The days of an era before one of its years. -/
def daysBefore (year : Nat) : Nat := 365 * year + year / 4 - year / 100

/-- An era has four centuries, a century has groups of four years, and only the last of these
years can have a leap day. -/
theorem yearOfEra_parts {dayOfEra : Nat} (inEra : dayOfEra < 146096) :
    ∃ century group year day, dayOfEra = 36524 * century + 1461 * group + 365 * year + day ∧
      yearOfEra dayOfEra = 100 * century + 4 * group + year ∧
      group < 25 ∧ year < 4 ∧ day ≤ 365 ∧ (day = 365 → year = 3 ∧ group < 24) := by
  obtain ⟨century, rest, split, inCentury⟩ :
      ∃ century rest, dayOfEra = 36524 * century + rest ∧ rest < 36524 :=
    ⟨dayOfEra / 36524, dayOfEra % 36524, by omega, by omega⟩
  obtain ⟨group, last, rfl, inGroup⟩ : ∃ group last, rest = 1461 * group + last ∧ last < 1461 :=
    ⟨rest / 1461, rest % 1461, by omega, by omega⟩
  have leaps : dayOfEra / 1460 = 25 * century + group + (24 * century + group + last) / 1460 := by
    omega
  have centuries : dayOfEra / 36524 = century := by omega
  have eras : dayOfEra / 146096 = 0 := by omega
  by_cases leapDay : last = 1460
  · refine ⟨century, group, 3, 365, by omega, ?_, by omega, by omega, by omega, by omega⟩
    unfold yearOfEra
    omega
  · obtain ⟨year, day, rfl, inYear⟩ : ∃ year day, last = 365 * year + day ∧ day < 365 :=
      ⟨last / 365, last % 365, by omega, by omega⟩
    refine ⟨century, group, year, day, by omega, ?_, by omega, by omega, by omega, by omega⟩
    -- The quotient by 1460 runs ahead of the groups only within the last year of a group.
    obtain ⟨ahead, runsAhead, small⟩ : ∃ ahead, dayOfEra / 1460 = 25 * century + group + ahead ∧
        ahead ≤ day := by
      refine ⟨_, leaps, ?_⟩
      omega
    have days : dayOfEra - dayOfEra / 1460 + dayOfEra / 36524 - dayOfEra / 146096 =
        365 * (100 * century + 4 * group + year) + (day - ahead) := by
      omega
    unfold yearOfEra
    rw [days]
    omega

/-- A day lies in its year, and only in leap years is it the three hundred and sixty-sixth. -/
theorem daysBefore_yearOfEra {dayOfEra : Nat} (inEra : dayOfEra < 146097) :
    yearOfEra dayOfEra < 400 ∧ daysBefore (yearOfEra dayOfEra) ≤ dayOfEra ∧
      dayOfEra ≤ daysBefore (yearOfEra dayOfEra) + 365 ∧
      (dayOfEra = daysBefore (yearOfEra dayOfEra) + 365 →
        ∀ era : Int, isLeapYear ((yearOfEra dayOfEra : Int) + era * 400 + 1) = true) := by
  have leap (year : Nat) (fourth : (year + 1) % 4 = 0)
      (other : (year + 1) % 100 ≠ 0 ∨ (year + 1) % 400 = 0) (era : Int) :
      isLeapYear ((year : Int) + era * 400 + 1) = true := by
    simp only [isLeapYear, Bool.or_eq_true, Bool.and_eq_true, decide_eq_true_eq, bne_iff_ne]
    omega
  by_cases last : dayOfEra = 146096
  · subst last
    exact ⟨by decide, by decide, by decide, fun _ => leap 399 (by decide) (by decide)⟩
  · obtain ⟨century, group, year, day, split, counted, inGroup, inYear, small, leapDay⟩ :=
      yearOfEra_parts (by omega : dayOfEra < 146096)
    have before : daysBefore (yearOfEra dayOfEra) = 36524 * century + 1461 * group + 365 * year := by
      have fourths : (100 * century + 4 * group + year) / 4 = 25 * century + group := by omega
      have hundredths : (100 * century + 4 * group + year) / 100 = century := by omega
      unfold daysBefore
      rw [counted, fourths, hundredths]
      omega
    rw [before, counted]
    exact ⟨by omega, by omega, by omega, fun full => leap _ (by omega) (.inl (by omega))⟩

/-! ## Days of a year -/

/-- The date of a day of a year that begins with March. -/
def marchDate (year : Int) (dayOfYear : Nat) : Date :=
  let marchMonth := (5 * dayOfYear + 2) / 153
  let month := if marchMonth < 10 then marchMonth + 3 else marchMonth - 9
  ⟨if month ≤ 2 then year + 1 else year, month, dayOfYear - (153 * marchMonth + 2) / 5 + 1⟩

/-- Every day is a day of a year of an era. -/
theorem ofDays_eq (days : Int) :
    ∃ (era : Int) (year dayOfYear : Nat), year < 400 ∧ dayOfYear ≤ 365 ∧
      (dayOfYear = 365 → isLeapYear (year + era * 400 + 1) = true) ∧
      days + 719468 = era * 146097 + daysBefore year + dayOfYear ∧
      Date.ofDays days = marchDate (year + era * 400) dayOfYear := by
  obtain ⟨era, dayOfEra, parts, inEra⟩ :
      ∃ (era : Int) (dayOfEra : Nat), days + 719468 = era * 146097 + dayOfEra ∧ dayOfEra < 146097 :=
    ⟨(days + 719468) / 146097, ((days + 719468) % 146097).toNat, by omega, by omega⟩
  obtain ⟨inYears, first, last, leapDay⟩ := daysBefore_yearOfEra inEra
  refine ⟨era, yearOfEra dayOfEra, dayOfEra - daysBefore (yearOfEra dayOfEra), inYears, by omega,
    fun full => leapDay (by omega) era, by omega, ?_⟩
  have eras : (days + 719468).fdiv 146097 = era := by
    rw [Int.fdiv_eq_ediv_of_nonneg _ (by decide)]
    omega
  have days : (days + 719468 - era * 146097).toNat = dayOfEra := by omega
  unfold Date.ofDays marchDate
  simp only [eras, days, ← yearOfEra.eq_1, ← daysBefore.eq_1]

/-- No month is longer than it may be. -/
theorem marchDate_day_le {year : Int} {dayOfYear : Nat} (small : dayOfYear ≤ 365)
    (leapDay : dayOfYear = 365 → isLeapYear (year + 1) = true) :
    (marchDate year dayOfYear).day ≤
      monthLength (marchDate year dayOfYear).year (marchDate year dayOfYear).month := by
  unfold marchDate
  dsimp only
  generalize march : (5 * dayOfYear + 2) / 153 = marchMonth
  have : marchMonth ≤ 11 := by omega
  interval_cases marchMonth
  case «11» =>
    change dayOfYear - 337 + 1 ≤ if isLeapYear (year + 1) then 29 else 28
    by_cases full : dayOfYear = 365
    · rw [if_pos (leapDay full)]
      omega
    · split <;> omega
  all_goals
    simp [monthLength]
    omega

theorem marchDate_valid {year : Int} {dayOfYear : Nat} (small : dayOfYear ≤ 365)
    (leapDay : dayOfYear = 365 → isLeapYear (year + 1) = true)
    (inRange : yearInRange (marchDate year dayOfYear).year = true) :
    (marchDate year dayOfYear).valid = true := by
  have month : 1 ≤ (marchDate year dayOfYear).month ∧ (marchDate year dayOfYear).month ≤ 12 := by
    unfold marchDate
    dsimp only
    split <;> omega
  have day : 1 ≤ (marchDate year dayOfYear).day := Nat.le_add_left 1 _
  simp only [Date.valid, Bool.and_eq_true, decide_eq_true_eq]
  exact ⟨⟨⟨⟨inRange, month.1⟩, month.2⟩, day⟩, marchDate_day_le small leapDay⟩

theorem toDays_marchDate {year dayOfYear : Nat} (era : Int) (inEra : year < 400)
    (small : dayOfYear ≤ 365) :
    (marchDate (year + era * 400) dayOfYear).toDays =
      era * 146097 + daysBefore year + dayOfYear - 719468 := by
  have eras : ((year : Int) + era * 400).fdiv 400 = era := by
    rw [Int.fdiv_eq_ediv_of_nonneg _ (by decide)]
    omega
  have years : ((year : Int) + era * 400 - era * 400).toNat = year := by omega
  unfold marchDate Date.toDays daysBefore
  dsimp only
  generalize march : (5 * dayOfYear + 2) / 153 = marchMonth
  by_cases early : marchMonth < 10
  · have later : ¬ marchMonth + 3 ≤ 2 := by omega
    have back : (marchMonth + 3 + 9) % 12 = marchMonth := by omega
    simp only [early, later, if_true, if_false, eras, years, back]
    omega
  · have sooner : marchMonth - 9 ≤ 2 := by omega
    have back : (marchMonth - 9 + 9) % 12 = marchMonth := by omega
    simp only [early, sooner, if_true, if_false, add_sub_cancel_right, eras, back]
    omega

/-! ## Days and dates -/

theorem toDays_ofDays (days : Int) : (Date.ofDays days).toDays = days := by
  obtain ⟨era, year, dayOfYear, inEra, small, _, parts, same⟩ := ofDays_eq days
  rw [same, toDays_marchDate era inEra small]
  omega

/-- The date of a day is valid, unless its year is out of range. -/
theorem ofDays_valid {days : Int} (inRange : yearInRange (Date.ofDays days).year = true) :
    (Date.ofDays days).valid = true := by
  obtain ⟨era, year, dayOfYear, inEra, small, leapDay, _, same⟩ := ofDays_eq days
  rw [same] at inRange ⊢
  exact marchDate_valid small leapDay inRange

end Autopilot.Calendar
