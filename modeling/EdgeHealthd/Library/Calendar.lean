import Mathlib.Tactic.IntervalCases

/-!
The proleptic Gregorian calendar. Years are counted from March, so that the leap
day is the last of its year and a date is a year, a month and a day of it. Every
day has one date, and the day number of a date decides it.
-/

namespace Calendar

def IsLeap (year : Int) : Prop := year % 4 = 0 ∧ (year % 100 ≠ 0 ∨ year % 400 = 0)

instance (year : Int) : Decidable (IsLeap year) :=
  inferInstanceAs (Decidable (year % 4 = 0 ∧ (year % 100 ≠ 0 ∨ year % 400 = 0)))

def monthLength (year : Int) (month : Nat) : Nat :=
  if month = 2 then if IsLeap year then 29 else 28
  else if month = 4 ∨ month = 6 ∨ month = 9 ∨ month = 11 then 30
  else 31

structure IsDate (year : Int) (month day : Nat) : Prop where
  month_pos : 1 ≤ month
  month_le : month ≤ 12
  day_pos : 1 ≤ day
  day_le : day ≤ monthLength year month

def yearStart (year : Int) : Int := 365 * year + year / 4 - year / 100 + year / 400

def marchYear (year : Int) (month : Nat) : Int := if month ≤ 2 then year - 1 else year

def marchMonth (month : Nat) : Nat := (month + 9) % 12

def monthStart (index : Nat) : Nat := (153 * index + 2) / 5

/-- The days from 1970-01-01 to a date. A day behind the end of the month counts on into
the next one. -/
def dayNumber (year : Int) (month day : Nat) : Int :=
  yearStart (marchYear year month) + monthStart (marchMonth month) + day - 719469

theorem yearStart_succ (year : Int) :
    yearStart (year + 1) = yearStart year + 365 + if IsLeap (year + 1) then 1 else 0 := by
  by_cases leap : IsLeap (year + 1)
  · rw [if_pos leap]
    unfold yearStart
    unfold IsLeap at leap
    omega
  · rw [if_neg leap]
    unfold yearStart
    unfold IsLeap at leap
    omega

theorem yearStart_mono {year later : Int} (order : year ≤ later) :
    yearStart year ≤ yearStart later := by
  unfold yearStart
  omega

theorem monthStart_mono {index later : Nat} (order : index ≤ later) :
    monthStart index ≤ monthStart later := by
  unfold monthStart
  omega

theorem marchMonth_lt (month : Nat) : marchMonth month < 12 := Nat.mod_lt _ (by decide)

theorem monthStart_next {month : Nat} (year : Int) (positive : 1 ≤ month) (bound : month ≤ 12)
    (other : month ≠ 2) :
    monthStart (marchMonth month) + monthLength year month = monthStart (marchMonth month + 1) := by
  interval_cases month <;> first | exact absurd rfl other | rfl

section Dates

variable {year : Int} {month day : Nat} (date : IsDate year month day)

include date

theorem IsDate.month_end (before : marchMonth month < 11) :
    monthStart (marchMonth month) + day ≤ monthStart (marchMonth month + 1) := by
  have other : month ≠ 2 := by
    rintro rfl
    exact absurd before (by decide)
  have next := monthStart_next year date.month_pos date.month_le other
  have bound := date.day_le
  omega

theorem IsDate.day_le_31 : day ≤ 31 := by
  refine Nat.le_trans date.day_le ?_
  unfold monthLength
  split_ifs
  all_goals decide

theorem IsDate.year_end :
    yearStart (marchYear year month) + monthStart (marchMonth month) + day ≤
      yearStart (marchYear year month + 1) := by
  have days := yearStart_succ (marchYear year month)
  by_cases before : marchMonth month < 11
  · have ends := date.month_end before
    have latest : monthStart (marchMonth month + 1) ≤ 337 := @monthStart_mono _ 11 before
    split at days
    · omega
    · omega
  · have february : month = 2 := by
      have positive := date.month_pos
      have bound := date.month_le
      unfold marchMonth at before
      omega
    have bound := date.day_le
    subst february
    have march : marchYear year 2 + 1 = year := by
      unfold marchYear
      rw [if_pos (by decide)]
      omega
    have length : monthLength year 2 = if IsLeap year then 29 else 28 := rfl
    have start : monthStart (marchMonth 2) = 337 := rfl
    rw [march] at days ⊢
    split at days
    · rename_i leap
      rw [if_pos leap] at length
      omega
    · rename_i common
      rw [if_neg common] at length
      omega

end Dates

section Unique

variable {year other : Int} {month day otherMonth otherDay : Nat}
  (date : IsDate year month day) (otherDate : IsDate other otherMonth otherDay)
  (same : dayNumber year month day = dayNumber other otherMonth otherDay)

include date otherDate same

theorem IsDate.marchYear_eq : marchYear year month = marchYear other otherMonth := by
  have ends := date.year_end
  have otherEnds := otherDate.year_end
  have positive := date.day_pos
  have otherPositive := otherDate.day_pos
  unfold dayNumber at same
  rcases Int.lt_trichotomy (marchYear year month) (marchYear other otherMonth) with
    earlier | equal | later
  · have order := yearStart_mono (Int.add_one_le_of_lt earlier)
    omega
  · exact equal
  · have order := yearStart_mono (Int.add_one_le_of_lt later)
    omega

theorem IsDate.marchMonth_eq : marchMonth month = marchMonth otherMonth := by
  have years := date.marchYear_eq otherDate same
  have positive := date.day_pos
  have otherPositive := otherDate.day_pos
  have bound := marchMonth_lt month
  have otherBound := marchMonth_lt otherMonth
  unfold dayNumber at same
  rw [years] at same
  rcases Nat.lt_trichotomy (marchMonth month) (marchMonth otherMonth) with
    earlier | equal | later
  · have order : monthStart (marchMonth month + 1) ≤ monthStart (marchMonth otherMonth) :=
      monthStart_mono earlier
    have ends := date.month_end (by omega)
    omega
  · exact equal
  · have order : monthStart (marchMonth otherMonth + 1) ≤ monthStart (marchMonth month) :=
      monthStart_mono later
    have ends := otherDate.month_end (by omega)
    omega

theorem IsDate.unique : year = other ∧ month = otherMonth ∧ day = otherDay := by
  have years := date.marchYear_eq otherDate same
  have months := date.marchMonth_eq otherDate same
  unfold dayNumber at same
  rw [years, months] at same
  have sameMonth : month = otherMonth := by
    have := date.month_pos
    have := date.month_le
    have := otherDate.month_pos
    have := otherDate.month_le
    unfold marchMonth at months
    omega
  subst sameMonth
  refine ⟨?_, rfl, by omega⟩
  unfold marchYear at years
  split at years
  · omega
  · exact years

end Unique

theorem date_before_epoch {year : Int} {month day : Nat} (monthLow : 1 ≤ month)
    (monthHigh : month ≤ 12) (dayLow : 1 ≤ day) (dayHigh : day ≤ 31)
    (date : dayNumber year month day = -1) : year = 1969 ∧ month = 12 ∧ day = 31 := by
  unfold dayNumber at date
  have latest : monthStart (marchMonth month) ≤ 337 :=
    @monthStart_mono _ 11 (Nat.le_of_lt_succ (marchMonth_lt month))
  have years : marchYear year month = 1969 := by
    rcases Int.lt_trichotomy (marchYear year month) 1969 with earlier | equal | later
    · have order : yearStart (marchYear year month) ≤ 718797 :=
        yearStart_mono (show marchYear year month ≤ 1968 by omega)
      omega
    · exact equal
    · have order : 719527 ≤ yearStart (marchYear year month) := @yearStart_mono 1970 _ later
      omega
  have start : yearStart 1969 = 719162 := by decide
  rw [years, start] at date
  have december : month = 12 := by
    unfold monthStart marchMonth at date
    omega
  subst december
  have month : monthStart (marchMonth 12) = 275 := by decide
  have sameYear : marchYear year 12 = year := rfl
  omega

/-! The date of a day, by eras of 400 years. -/

def yearOfEra (dayOfEra : Nat) : Nat :=
  (dayOfEra - dayOfEra / 1460 + dayOfEra / 36524 - dayOfEra / 146096) / 365

/-- A day of the era is a day of a year of four years of a century. -/
structure EraDay (century cycle year day : Nat) : Prop where
  century_le : century ≤ 3
  cycle_le : cycle ≤ 24
  year_le : year ≤ 3
  day_le : day ≤ 365
  leap : day = 365 → year = 3 ∧ (cycle < 24 ∨ century = 3)

theorem exists_eraDay {dayOfEra : Nat} (bound : dayOfEra < 146097) :
    ∃ century cycle year day, EraDay century cycle year day ∧
      dayOfEra = 36524 * century + 1461 * cycle + 365 * year + day := by
  obtain ⟨century, dayOfCentury, centuries, few, short, last⟩ : ∃ century dayOfCentury,
      dayOfEra = 36524 * century + dayOfCentury ∧ century ≤ 3 ∧ dayOfCentury ≤ 36524 ∧
        (dayOfCentury = 36524 → century = 3) := by
    by_cases final : dayOfEra = 146096
    · exact ⟨3, 36524, by omega, by omega, by omega, by omega⟩
    · exact ⟨dayOfEra / 36524, dayOfEra % 36524, by omega, by omega, by omega, by omega⟩
  obtain ⟨year, day, years, fewYears, fewDays, full⟩ : ∃ year day,
      dayOfCentury % 1461 = 365 * year + day ∧ year ≤ 3 ∧ day ≤ 365 ∧ (day = 365 → year = 3) := by
    by_cases final : dayOfCentury % 1461 = 1460
    · exact ⟨3, 365, by omega, by omega, by omega, by omega⟩
    · exact ⟨dayOfCentury % 1461 / 365, dayOfCentury % 1461 % 365, by omega, by omega, by omega,
        by omega⟩
  refine ⟨century, dayOfCentury / 1461, year, day, ⟨few, by omega, fewYears, fewDays, ?_⟩,
    by omega⟩
  intro leap
  exact ⟨full leap, by omega⟩

section Era

variable {century cycle year day : Nat} (eraDay : EraDay century cycle year day)

include eraDay

omit eraDay in
theorem div_cycles : (36524 * century + 1461 * cycle + 365 * year + day) / 1460 =
    25 * century + cycle + (24 * century + cycle + 365 * year + day) / 1460 := by
  have regrouped : 36524 * century + 1461 * cycle + 365 * year + day =
      1460 * (25 * century + cycle) + (24 * century + cycle + 365 * year + day) := by omega
  rw [regrouped, Nat.mul_add_div (by decide)]

theorem EraDay.div_centuries : (36524 * century + 1461 * cycle + 365 * year + day) / 36524 =
    century + (36524 * century + 1461 * cycle + 365 * year + day) / 146096 := by
  obtain ⟨_, fewCycles, fewYears, fewDays, leap⟩ := eraDay
  have regrouped : 36524 * century + 1461 * cycle + 365 * year + day =
      36524 * century + (1461 * cycle + 365 * year + day) := by omega
  rw [regrouped, Nat.mul_add_div (by decide)]
  by_cases inside : 1461 * cycle + 365 * year + day < 36524
  · rw [Nat.div_eq_of_lt inside, Nat.div_eq_of_lt (by omega)]
  · have full : day = 365 := by omega
    have final : century = 3 := by
      rcases (leap full).2 with short | final
      · omega
      · exact final
    have whole : 1461 * cycle + 365 * year + day = 36524 := by omega
    rw [whole, final]

theorem EraDay.div_rest : ∃ excess,
    (24 * century + cycle + 365 * year + day) / 1460 = excess ∧ excess ≤ day ∧
      day ≤ 364 + excess := by
  obtain ⟨few, fewCycles, fewYears, fewDays, leap⟩ := eraDay
  by_cases below : 24 * century + cycle + 365 * year + day < 1460
  · refine ⟨0, Nat.div_eq_of_lt below, by omega, ?_⟩
    by_cases full : day = 365
    · have last := (leap full).1
      omega
    · omega
  · refine ⟨1, ?_, by omega, by omega⟩
    omega

theorem EraDay.yearOfEra_eq :
    yearOfEra (36524 * century + 1461 * cycle + 365 * year + day) =
      100 * century + 4 * cycle + year := by
  obtain ⟨excess, counted, below, above⟩ := eraDay.div_rest
  rw [yearOfEra, div_cycles, eraDay.div_centuries, counted, ← Nat.add_assoc, Nat.add_sub_cancel]
  have whole : 36524 * century + 1461 * cycle + 365 * year + day -
      (25 * century + cycle + excess) + century =
        365 * (100 * century + 4 * cycle + year) + (day - excess) := by
    omega
  rw [whole, Nat.mul_add_div (by decide), Nat.div_eq_of_lt (by omega), Nat.add_zero]

theorem EraDay.isLeap (full : day = 365) (era : Int) :
    IsLeap (era * 400 + (100 * century + 4 * cycle + year : Nat) + 1) := by
  obtain ⟨last, rule⟩ := eraDay.leap full
  have few := eraDay.cycle_le
  unfold IsLeap
  rcases rule with short | final
  · omega
  · omega

end Era

def monthOfDay (dayOfYear : Nat) : Nat := (5 * dayOfYear + 2) / 153

def monthOfIndex (index : Nat) : Nat := if index < 10 then index + 3 else index - 9

/-- The date of a day counted from 1970-01-01. -/
def dateOfDay (days : Int) : Int × Nat × Nat :=
  let shifted := days + 719468
  let era := shifted / 146097
  let dayOfEra := (shifted % 146097).toNat
  let year := yearOfEra dayOfEra
  let dayOfYear := dayOfEra - (365 * year + year / 4 - year / 100)
  let month := monthOfIndex (monthOfDay dayOfYear)
  (if month ≤ 2 then era * 400 + year + 1 else era * 400 + year, month,
    dayOfYear - monthStart (monthOfDay dayOfYear) + 1)

theorem monthOfDay_bounds {dayOfYear : Nat} (bound : dayOfYear ≤ 365) :
    monthOfDay dayOfYear ≤ 11 ∧ monthStart (monthOfDay dayOfYear) ≤ dayOfYear ∧
      dayOfYear < monthStart (monthOfDay dayOfYear + 1) := by
  unfold monthOfDay monthStart
  omega

theorem marchMonth_monthOfIndex {index : Nat} (bound : index ≤ 11) :
    marchMonth (monthOfIndex index) = index := by
  unfold marchMonth monthOfIndex
  split
  · omega
  · omega

theorem monthOfIndex_bounds {index : Nat} (bound : index ≤ 11) :
    1 ≤ monthOfIndex index ∧ monthOfIndex index ≤ 12 ∧
      (monthOfIndex index = 2 ↔ index = 11) := by
  unfold monthOfIndex
  split
  · omega
  · omega

theorem marchYear_shift (year : Int) (month : Nat) :
    marchYear (if month ≤ 2 then year + 1 else year) month = year := by
  unfold marchYear
  split
  · omega
  · rfl

theorem yearStart_era (era : Int) {century cycle year : Nat} (few : century ≤ 3)
    (fewCycles : cycle ≤ 24) (fewYears : year ≤ 3) :
    yearStart (era * 400 + (100 * century + 4 * cycle + year : Nat)) =
      146097 * era + (36524 * century + 1461 * cycle + 365 * year : Nat) := by
  unfold yearStart
  omega

theorem dateOfDay_eq (days : Int) : ∃ century cycle year day, EraDay century cycle year day ∧
    days + 719468 = yearStart ((days + 719468) / 146097 * 400 +
      (100 * century + 4 * cycle + year : Nat)) + day ∧
    dateOfDay days =
      (if monthOfIndex (monthOfDay day) ≤ 2 then
        (days + 719468) / 146097 * 400 + (100 * century + 4 * cycle + year : Nat) + 1
      else (days + 719468) / 146097 * 400 + (100 * century + 4 * cycle + year : Nat),
      monthOfIndex (monthOfDay day), day - monthStart (monthOfDay day) + 1) := by
  have bound : ((days + 719468) % 146097).toNat < 146097 := by omega
  obtain ⟨century, cycle, year, day, eraDay, split⟩ := exists_eraDay bound
  have start := yearStart_era ((days + 719468) / 146097) eraDay.century_le eraDay.cycle_le
    eraDay.year_le
  refine ⟨century, cycle, year, day, eraDay, by omega, ?_⟩
  have rest : 36524 * century + 1461 * cycle + 365 * year + day -
      (365 * (100 * century + 4 * cycle + year) + (100 * century + 4 * cycle + year) / 4 -
        (100 * century + 4 * cycle + year) / 100) = day := by
    have fewYears := eraDay.year_le
    have fewCycles := eraDay.cycle_le
    have fourths : (100 * century + 4 * cycle + year) / 4 = 25 * century + cycle := by omega
    have hundredths : (100 * century + 4 * cycle + year) / 100 = century := by omega
    rw [fourths, hundredths]
    omega
  simp only [dateOfDay, split, eraDay.yearOfEra_eq, rest]

theorem dateOfDay_year_bounds (days : Int) :
    (days + 719468) / 146097 * 400 ≤ (dateOfDay days).1 ∧
      (dateOfDay days).1 ≤ (days + 719468) / 146097 * 400 + 400 := by
  obtain ⟨century, cycle, year, day, eraDay, _, found⟩ := dateOfDay_eq days
  have few := eraDay.century_le
  have fewCycles := eraDay.cycle_le
  have fewYears := eraDay.year_le
  rw [found]
  dsimp only
  split
  · omega
  · omega

theorem isDate_dateOfDay (days : Int) :
    IsDate (dateOfDay days).1 (dateOfDay days).2.1 (dateOfDay days).2.2 := by
  obtain ⟨century, cycle, year, day, eraDay, _, found⟩ := dateOfDay_eq days
  obtain ⟨index, starts, ends⟩ := monthOfDay_bounds eraDay.day_le
  obtain ⟨positive, bound, february⟩ := monthOfIndex_bounds index
  rw [found]
  refine ⟨positive, bound, Nat.le_add_left 1 _, ?_⟩
  dsimp only
  by_cases last : monthOfDay day = 11
  · have first : monthStart (monthOfDay day) = 337 := by rw [last]; rfl
    have days := eraDay.day_le
    rw [february.mpr last, if_pos (by decide), monthLength, if_pos rfl, first]
    by_cases full : day = 365
    · rw [if_pos (eraDay.isLeap full _)]
      omega
    · split
      · omega
      · omega
  · have next := monthStart_next
      (if monthOfIndex (monthOfDay day) ≤ 2 then
        (days + 719468) / 146097 * 400 + (100 * century + 4 * cycle + year : Nat) + 1
      else (days + 719468) / 146097 * 400 + (100 * century + 4 * cycle + year : Nat))
      positive bound (fun two => last (february.mp two))
    rw [marchMonth_monthOfIndex index] at next
    omega

theorem dayNumber_dateOfDay (days : Int) :
    dayNumber (dateOfDay days).1 (dateOfDay days).2.1 (dateOfDay days).2.2 = days := by
  obtain ⟨century, cycle, year, day, eraDay, counted, found⟩ := dateOfDay_eq days
  obtain ⟨index, starts, _⟩ := monthOfDay_bounds eraDay.day_le
  rw [found]
  dsimp only
  rw [dayNumber, marchYear_shift, marchMonth_monthOfIndex index]
  omega

end Calendar
