import CameraFleet.Calendar
import Mathlib.Order.Monotone.Basic
import Mathlib.Data.Int.SuccPred
import Mathlib.Tactic.IntervalCases

/-!
# The order of dates

Dates follow one another as the Gregorian rules say: a day later is the next day
of the month, or the first one of the next month. So a later day has a later
date, and an instant is known by its date and time up to what these leave out.
-/

namespace CameraFleet
namespace Calendar

/-! ## Years of an era -/

theorem yearOfEra_mono {early late : Nat} (order : early ≤ late) :
    yearOfEra early ≤ yearOfEra late := by
  unfold yearOfEra
  exact Nat.div_le_div_right (by omega)

/-- The first and the last day of each year of an era. -/
theorem yearOfEra_bounds :
    ∀ year < 400, yearOfEra (daysBeforeYear year) = year ∧
      (year < 399 -> yearOfEra (daysBeforeYear (year + 1) - 1) = year) := by
  decide +kernel

/-- The days of a year of an era follow those of the years before it, and there are as many as
its leap day makes them. -/
theorem daysBeforeYear_yearOfEra {dayOfEra : Nat} (inside : dayOfEra < daysPerEra) :
    yearOfEra dayOfEra ≤ 399 ∧ daysBeforeYear (yearOfEra dayOfEra) ≤ dayOfEra ∧
      (yearOfEra dayOfEra < 399 ->
        dayOfEra < daysBeforeYear (yearOfEra dayOfEra + 1)) := by
  have few : yearOfEra dayOfEra ≤ 399 := by
    have := yearOfEra_mono (show dayOfEra ≤ 146096 by unfold daysPerEra at inside; omega)
    exact this.trans (by decide)
  refine ⟨few, ?_, fun notLast => ?_⟩
  · by_contra before
    by_cases first : yearOfEra dayOfEra = 0
    · rw [first] at before
      simp [daysBeforeYear] at before
    · have earlier := yearOfEra_mono
        (show dayOfEra ≤ daysBeforeYear (yearOfEra dayOfEra - 1 + 1) - 1 by
          rw [Nat.sub_add_cancel (by omega)]; omega)
      rw [(yearOfEra_bounds (yearOfEra dayOfEra - 1) (by omega)).2 (by omega)] at earlier
      omega
  · by_contra after
    have later := yearOfEra_mono
      (show daysBeforeYear (yearOfEra dayOfEra + 1) ≤ dayOfEra by omega)
    rw [(yearOfEra_bounds (yearOfEra dayOfEra + 1) (by omega)).1] at later
    omega

/-! ## The Gregorian rules -/

/-- A year with a leap day. -/
def Leap (year : Int) : Prop :=
  4 ∣ year ∧ (100 ∣ year -> 400 ∣ year)

instance (year : Int) : Decidable (Leap year) := by
  unfold Leap
  infer_instance

/-- The number of days of a month. -/
def monthLength (year : Int) (month : Nat) : Nat :=
  if month = 2 then if Leap year then 29 else 28
  else if month = 4 ∨ month = 6 ∨ month = 9 ∨ month = 11 then 30
  else 31

/-- The day after a date. -/
def nextDate : Int × Nat × Nat -> Int × Nat × Nat
  | (year, month, day) =>
      if day < monthLength year month then (year, month, day + 1)
      else if month < 12 then (year, month + 1, 1)
      else (year + 1, 1, 1)

/-- The calendar starts where it should, -/
theorem dateOfDay_zero : dateOfDay 0 = (1970, 1, 1) := by
  decide +kernel

/-- The number in the calendar of a month, counted from March as 0. -/
def civilMonth (month : Nat) : Nat :=
  if month < 10 then month + 3 else month - 9

/-- The year in the calendar of a month, counted from March as 0: the last two are in the next
one. -/
def civilYear (year : Int) (month : Nat) : Int :=
  if month < 10 then year else year + 1

/-- The date of a day (from 0) of a year that starts in March. -/
def dateOfYear (year : Int) (dayOfYear : Nat) : Int × Nat × Nat :=
  let month := monthOfYear dayOfYear
  (civilYear year month, civilMonth month, dayOfYear - daysBeforeMonth month + 1)

/-- The date of a day, by its era, its year and its day of the year. -/
theorem dateOfDay_eq (era : Int) {dayOfEra : Nat} (inside : dayOfEra < daysPerEra) :
    dateOfDay (era * daysPerEra + dayOfEra - 719468) =
      dateOfYear (era * 400 + yearOfEra dayOfEra)
        (dayOfEra - daysBeforeYear (yearOfEra dayOfEra)) := by
  unfold daysPerEra at inside
  have quotient :
      (era * (146097 : Nat) + dayOfEra - 719468 + 719468 : Int) / (146097 : Nat) = era := by
    omega
  have remainder :
      (era * (146097 : Nat) + dayOfEra - 719468 + 719468 : Int) % (146097 : Nat) = dayOfEra := by
    omega
  unfold dateOfDay daysPerEra dateOfYear civilYear civilMonth
  dsimp only
  rw [quotient, remainder]
  dsimp only [Int.toNat_natCast]
  split <;> rfl

/-- The months of a year that starts in March. -/
theorem monthOfYear_cases {dayOfYear : Nat} (inside : dayOfYear < 366) :
    monthOfYear dayOfYear < 12 ∧ daysBeforeMonth (monthOfYear dayOfYear) ≤ dayOfYear ∧
      dayOfYear < daysBeforeMonth (monthOfYear dayOfYear + 1) := by
  unfold daysBeforeMonth monthOfYear
  omega

/-- The month of a day is known by the days before it. -/
theorem monthOfYear_eq
    {dayOfYear month : Nat}
    (first : daysBeforeMonth month ≤ dayOfYear)
    (last : dayOfYear < daysBeforeMonth (month + 1)) :
    monthOfYear dayOfYear = month := by
  unfold daysBeforeMonth at first last
  unfold monthOfYear
  omega

/-- All months but the last have a fixed length, -/
theorem monthLength_civilMonth (year : Int) {month : Nat} (notLast : month < 11) :
    monthLength year (civilMonth month) = daysBeforeMonth (month + 1) - daysBeforeMonth month := by
  interval_cases month <;> rfl

/-- and another one follows. -/
theorem civilMonth_succ (year : Int) {month : Nat} (notLast : month < 11) :
    (civilMonth month < 12 ∧ civilYear year (month + 1) = civilYear year month ∧
      civilMonth (month + 1) = civilMonth month + 1) ∨
    (civilMonth month = 12 ∧ civilYear year (month + 1) = civilYear year month + 1 ∧
      civilMonth (month + 1) = 1) := by
  interval_cases month <;> simp [civilMonth, civilYear]

/-- Within a year that starts in March, the leap day comes last. -/
theorem dateOfYear_succ
    {year : Int}
    {dayOfYear : Nat}
    (inside : dayOfYear + 1 < 366)
    (leap : dayOfYear = 364 -> Leap (year + 1)) :
    dateOfYear year (dayOfYear + 1) = nextDate (dateOfYear year dayOfYear) := by
  obtain ⟨few, first, last⟩ := monthOfYear_cases (show dayOfYear < 366 by omega)
  unfold dateOfYear
  generalize monthOfYear dayOfYear = month at few first last
  by_cases same : dayOfYear + 1 < daysBeforeMonth (month + 1)
  · have stays : dayOfYear - daysBeforeMonth month + 1 <
        monthLength (civilYear year month) (civilMonth month) := by
      rcases Nat.lt_or_ge month 11 with notLast | isLast
      · rw [monthLength_civilMonth _ notLast]
        omega
      · obtain rfl : month = 11 := by omega
        have inFebruary : daysBeforeMonth 11 = 337 := rfl
        by_cases leapDay : dayOfYear = 364
        · simp [monthLength, civilMonth, civilYear, leap leapDay, leapDay, inFebruary]
        · have least : 28 ≤ monthLength (civilYear year 11) (civilMonth 11) := by
            change 28 ≤ if Leap (civilYear year 11) then 29 else 28
            split <;> omega
          omega
    simp only [monthOfYear_eq (Nat.le_succ_of_le first) same, nextDate, if_pos stays]
    congr 3
    omega
  · have notLast : month < 11 := by
      by_contra last
      obtain rfl : month = 11 := by omega
      have : daysBeforeMonth (11 + 1) = 367 := rfl
      omega
    have nextMonth : daysBeforeMonth (month + 1) ≤ daysBeforeMonth (month + 1 + 1) := by
      unfold daysBeforeMonth
      omega
    have ends : ¬ dayOfYear - daysBeforeMonth month + 1 <
        monthLength (civilYear year month) (civilMonth month) := by
      rw [monthLength_civilMonth _ notLast]
      omega
    have starts : monthOfYear (dayOfYear + 1) = month + 1 :=
      monthOfYear_eq (by omega) (by unfold daysBeforeMonth at *; omega)
    simp only [starts, nextDate, if_neg ends]
    rcases civilMonth_succ year notLast with
      ⟨before, sameYear, next⟩ | ⟨december, nextYear, january⟩
    · rw [if_pos before, sameYear, next]
      congr 3
      omega
    · rw [if_neg (by omega), nextYear, january]
      congr 3
      omega

/-- After the last day of a year that starts in March comes March again. -/
theorem dateOfYear_last
    {year : Int}
    {dayOfYear : Nat}
    (last : dayOfYear = if Leap (year + 1) then 365 else 364) :
    dateOfYear (year + 1) 0 = nextDate (dateOfYear year dayOfYear) := by
  have march (year : Int) : dateOfYear year 0 = (year, 3, 1) := rfl
  have day (dayOfYear : Nat) (february : monthOfYear dayOfYear = 11) :
      dateOfYear year dayOfYear = (year + 1, 2, dayOfYear - 337 + 1) := by
    simp only [dateOfYear, february]
    rfl
  rw [march]
  split at last
  · rename_i leap
    rw [last, day 365 rfl]
    simp [nextDate, monthLength, leap]
  · rename_i usual
    rw [last, day 364 rfl]
    simp [nextDate, monthLength, usual]

/-- A year of an era, but the last, has as many days as its leap day makes them. -/
theorem daysBeforeYear_succ (era : Int) {year : Nat} (notLast : year < 399) :
    daysBeforeYear (year + 1) =
      daysBeforeYear year + if Leap (era * 400 + year + 1) then 366 else 365 := by
  by_cases leap : Leap (era * 400 + year + 1)
  · rw [if_pos leap]
    unfold Leap at leap
    unfold daysBeforeYear
    omega
  · rw [if_neg leap]
    unfold Leap at leap
    unfold daysBeforeYear
    omega

/-- A day is one of an era. -/
theorem exists_era (dayNumber : Int) :
    ∃ (era : Int) (dayOfEra : Nat), dayOfEra < daysPerEra ∧
      dayNumber = era * daysPerEra + dayOfEra - 719468 := by
  refine ⟨(dayNumber + 719468) / daysPerEra, ((dayNumber + 719468) % daysPerEra).toNat, ?_, ?_⟩ <;>
    · unfold daysPerEra
      omega

/-- and goes on as the Gregorian rules say. -/
theorem dateOfDay_succ (dayNumber : Int) :
    dateOfDay (dayNumber + 1) = nextDate (dateOfDay dayNumber) := by
  obtain ⟨era, dayOfEra, inside, rfl⟩ := exists_era dayNumber
  rw [dateOfDay_eq era inside]
  obtain ⟨few, first, last⟩ := daysBeforeYear_yearOfEra inside
  generalize known : yearOfEra dayOfEra = year at few first last
  by_cases eraEnds : dayOfEra + 1 = daysPerEra
  · obtain rfl : dayOfEra = 146096 := by
      unfold daysPerEra at eraEnds
      omega
    obtain rfl : year = 399 := known ▸ rfl
    have next := dateOfDay_eq (era + 1) (show 0 < daysPerEra by decide)
    have same : (era + 1) * (daysPerEra : Int) + (0 : Nat) - 719468 =
        era * daysPerEra + (146096 : Nat) - 719468 + 1 := by
      unfold daysPerEra
      omega
    rw [← same, next]
    have leap : Leap (era * 400 + (399 : Nat) + 1) := by
      unfold Leap
      omega
    have ends : 146096 - daysBeforeYear 399 =
        if Leap (era * 400 + (399 : Nat) + 1) then 365 else 364 :=
      (if_pos leap).symm ▸ rfl
    rw [← dateOfYear_last ends]
    congr 1
    have : yearOfEra 0 = 0 := rfl
    rw [this]
    omega
  · have next := dateOfDay_eq era (show dayOfEra + 1 < daysPerEra by omega)
    have same : era * (daysPerEra : Int) + (dayOfEra + 1 : Nat) - 719468 =
        era * daysPerEra + dayOfEra - 719468 + 1 := by
      omega
    rw [← same, next]
    by_cases yearEnds : year < 399 ∧ dayOfEra + 1 = daysBeforeYear (year + 1)
    · have starts : yearOfEra (dayOfEra + 1) = year + 1 := by
        rw [yearEnds.2]
        exact (yearOfEra_bounds (year + 1) (by omega)).1
      have ends : dayOfEra - daysBeforeYear year =
          if Leap (era * 400 + year + 1) then 365 else 364 := by
        have length := daysBeforeYear_succ era yearEnds.1
        by_cases leap : Leap (era * 400 + year + 1)
        · rw [if_pos leap] at length ⊢
          omega
        · rw [if_neg leap] at length ⊢
          omega
      rw [starts, yearEnds.2, Nat.sub_self, ← dateOfYear_last ends]
      congr 1
      omega
    · have stays : yearOfEra (dayOfEra + 1) = year := by
        refine Nat.le_antisymm ?_ (known ▸ yearOfEra_mono (Nat.le_succ dayOfEra))
        rcases Nat.lt_or_ge year 399 with notLast | isLast
        · have early := yearOfEra_mono
            (show dayOfEra + 1 ≤ daysBeforeYear (year + 1) - 1 by have := last notLast; omega)
          rwa [(yearOfEra_bounds year (by omega)).2 notLast] at early
        · have := (daysBeforeYear_yearOfEra (show dayOfEra + 1 < daysPerEra by omega)).1
          omega
      rw [stays, Nat.sub_add_comm first]
      rcases Nat.lt_or_ge year 399 with notLast | isLast
      · have length := daysBeforeYear_succ era notLast
        have before := last notLast
        refine dateOfYear_succ (by split at length <;> omega) fun leapDay => ?_
        by_contra usual
        rw [if_neg usual] at length
        omega
      · obtain rfl : year = 399 := by omega
        have sofar : daysBeforeYear 399 = 145731 := rfl
        unfold daysPerEra at inside eraEnds
        refine dateOfYear_succ (by omega) fun _ => ?_
        unfold Leap
        omega

/-! ## The order of days and seconds -/

/-- A date as a number, `YYYYMMDD`. -/
def dateNumber : Int × Nat × Nat -> Int
  | (year, month, day) => year * 10000 + month * 100 + day

/-- A month and a day of the month are in their ranges. -/
def InRange : Int × Nat × Nat -> Prop
  | (_, month, day) => 1 ≤ month ∧ month ≤ 12 ∧ 1 ≤ day ∧ day ≤ 31

theorem inRange_dateOfDay (dayNumber : Int) : InRange (dateOfDay dayNumber) := by
  obtain ⟨era, dayOfEra, inside, rfl⟩ := exists_era dayNumber
  rw [dateOfDay_eq era inside]
  obtain ⟨few, first, last⟩ := daysBeforeYear_yearOfEra inside
  generalize yearOfEra dayOfEra = year at few first last
  have short : dayOfEra - daysBeforeYear year < 366 := by
    rcases Nat.lt_or_ge year 399 with notLast | isLast
    · have length := daysBeforeYear_succ era notLast
      have before := last notLast
      split at length <;> omega
    · obtain rfl : year = 399 := by omega
      have sofar : daysBeforeYear 399 = 145731 := rfl
      unfold daysPerEra at inside
      omega
  obtain ⟨month, begins, ends⟩ := monthOfYear_cases short
  unfold InRange dateOfYear civilMonth daysBeforeMonth at *
  dsimp only
  split <;> omega

/-- The next date is later. -/
theorem dateNumber_nextDate {date : Int × Nat × Nat} (inRange : InRange date) :
    dateNumber date < dateNumber (nextDate date) := by
  obtain ⟨year, month, day⟩ := date
  obtain ⟨_, few, _, short⟩ := inRange
  dsimp only [nextDate]
  split
  · simp only [dateNumber]
    omega
  · split <;>
      · simp only [dateNumber]
        omega

/-- A later day has a later date, and different days have different dates. -/
theorem dateNumber_dateOfDay (early late : Int) :
    (dateNumber (dateOfDay early) < dateNumber (dateOfDay late) ↔ early < late) ∧
    (dateNumber (dateOfDay early) = dateNumber (dateOfDay late) ↔ early = late) := by
  have mono : StrictMono fun dayNumber => dateNumber (dateOfDay dayNumber) :=
    strictMono_int_of_lt_succ fun dayNumber => by
      rw [dateOfDay_succ]
      exact dateNumber_nextDate (inRange_dateOfDay dayNumber)
  exact ⟨mono.lt_iff_lt, mono.injective.eq_iff⟩

/-- The date of a civil time, as a number. -/
def Civil.dateNumber (c : Civil) : Int :=
  Calendar.dateNumber (c.year, c.month, c.day)

/-- The time of day of a civil time, as a number, `HHMMSS`. -/
def Civil.timeNumber (c : Civil) : Nat :=
  c.hour * 10000 + c.minute * 100 + c.second

theorem dateNumber_civil (ms : Int) :
    (civil ms).dateNumber = dateNumber (dateOfDay (ms / 86400000)) :=
  rfl

/-- The seconds of a day, by the hour, the minute and the second. -/
theorem timeNumber_lt_iff
    {hour minute second hour' minute' second' : Nat}
    (minutes : minute < 60 ∧ minute' < 60)
    (seconds : second < 60 ∧ second' < 60) :
    hour * 10000 + minute * 100 + second < hour' * 10000 + minute' * 100 + second' ↔
      hour * 3600 + minute * 60 + second < hour' * 3600 + minute' * 60 + second' := by
  rcases Nat.lt_trichotomy hour hour' with less | rfl | more
  · omega
  · rcases Nat.lt_trichotomy minute minute' with less | rfl | more <;> omega
  · omega

/-- The time of day, in seconds. -/
theorem timeNumber_civil_lt_iff (early late : Int) :
    (civil early).timeNumber < (civil late).timeNumber ↔
      (early % 86400000).toNat / 1000 < (late % 86400000).toNat / 1000 := by
  have parts (time : Nat) :
      time / 3600000 * 3600 + time / 60000 % 60 * 60 + time / 1000 % 60 = time / 1000 := by
    omega
  simp only [Civil.timeNumber, civil, msPerDay]
  rw [timeNumber_lt_iff (by omega) (by omega), parts, parts]
  rfl

/-- The date and the time of day order the seconds, -/
theorem civil_lt_iff (early late : Int) :
    ((civil early).dateNumber < (civil late).dateNumber ∨
      (civil early).dateNumber = (civil late).dateNumber ∧
        (civil early).timeNumber < (civil late).timeNumber) ↔
      early / 1000 < late / 1000 := by
  rw [dateNumber_civil, dateNumber_civil, (dateNumber_dateOfDay _ _).1,
    (dateNumber_dateOfDay _ _).2, timeNumber_civil_lt_iff]
  omega

/-- and tell them apart. -/
theorem civil_eq_iff (ms ms' : Int) :
    ((civil ms).dateNumber = (civil ms').dateNumber ∧
      (civil ms).timeNumber = (civil ms').timeNumber) ↔
      ms / 1000 = ms' / 1000 := by
  have before := civil_lt_iff ms ms'
  have after := civil_lt_iff ms' ms
  omega

end Calendar
end CameraFleet
