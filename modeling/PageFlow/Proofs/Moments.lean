import Mathlib.Tactic.IntervalCases
import PageFlow.Proofs.Timestamps
import PageFlow.Value

/-!
# Moments of times

A time of Greenwich in the years 1 to 9999 is the time of its own moment: the
date of the day number of a date is that date again, over every month, year and
leap day. So what is known of the times of moments holds of every time that can
be given.
-/

namespace PageFlow.Calendar

/-! ## Dates and their days -/

/-- A date that occurs in the calendar, in the years 1 to 9999. -/
def Occurs (date : Date) : Prop :=
  date? date.year date.month date.day = .ok date

instance (date : Date) : Decidable (Occurs date) :=
  inferInstanceAs (Decidable (_ = _))

theorem occurs_iff {date : Date} :
    Occurs date ↔ (1 ≤ date.year ∧ date.year ≤ 9999) ∧
    (1 ≤ date.month ∧ date.month ≤ 12) ∧
    1 ≤ date.day ∧ date.day ≤ daysInMonth date.year date.month := by
  unfold Occurs date?
  split
  · simp only [reduceCtorEq, false_iff]
    omega
  · split
    · simp only [reduceCtorEq, false_iff]
      omega
    · split
      · simp only [reduceCtorEq, false_iff]
        omega
      · simp only [true_iff]
        omega

/-- The year that a date belongs to, if years begin in March. -/
def yearOf (date : Date) : Int :=
  if date.month ≤ 2 then (date.year : Int) - 1 else date.year

/-- The month of that year, where March is zero. -/
def monthOf (date : Date) : Int :=
  if date.month ≤ 2 then (date.month : Int) + 9 else (date.month : Int) - 3

/-- The day of that year, from zero. -/
def dayOf (date : Date) : Int :=
  (153 * monthOf date + 2) / 5 + (date.day : Int) - 1

theorem yearOfEra_first :
    ∀ year : Nat, year < 400 → yearOfEra (yearStart year) = year := by
  decide +kernel

/-- The days of a year are those from its start up to the start of the next one,
or to the end of the era. -/
theorem yearOfEra_add {year day : Int} (inEra : 0 ≤ year) (inEra' : year < 400)
    (first : 0 ≤ day) (last : day ≤ 365)
    (before : year < 399 → yearStart year + day < yearStart (year + 1)) :
    yearOfEra (yearStart year + day) = year := by
  obtain ⟨year, rfl⟩ := Int.eq_ofNat_of_zero_le inEra
  have range : 0 ≤ yearStart year ∧ yearStart year + day < 146097 := by
    unfold yearStart
    omega
  refine Int.le_antisymm ?_ ?_
  · by_cases next : year + 1 < 400
    · have bound := (yearOfEra_yearStart (year + 1) next).1 (by omega)
      have start := before (by omega)
      have mono :
          yearOfEra (yearStart year + day) ≤
            yearOfEra (yearStart (year + 1) - 1) :=
        yearOfEra_mono (by omega) (by unfold yearStart; omega) (by omega)
      push_cast at bound
      omega
    · unfold yearOfEra
      omega
  · have mono : yearOfEra (yearStart year) ≤ yearOfEra (yearStart year + day) :=
      yearOfEra_mono range.1 range.2 (by omega)
    rwa [yearOfEra_first year (by omega)] at mono

theorem dayNumber_eq (date : Date) : dayNumber date =
    yearOf date / 400 * 146097 +
      (yearStart (yearOf date % 400) + dayOf date) - 719468 := by
  have split := Int.emod_add_mul_ediv (yearOf date) 400
  simp (disch := decide) only [dayNumber, Int.fdiv_eq_ediv_of_nonneg, gt_iff_lt]
  unfold yearStart dayOf monthOf yearOf at *
  by_cases early : date.month ≤ 2
  · simp only [if_pos early, if_neg (Nat.not_lt.mpr early)] at *
    omega
  · simp only [if_neg early, if_pos (Nat.lt_of_not_le early)] at *
    omega

/-- The day of a year tells the month, and the 366th day is one of a leap
year. -/
theorem dayOf_range {date : Date} (occurs : Occurs date) :
    0 ≤ dayOf date ∧ dayOf date ≤ 365 ∧ marchMonth (dayOf date) = monthOf date ∧
      (yearOf date % 400 < 399 → yearStart (yearOf date % 400) + dayOf date <
        yearStart (yearOf date % 400 + 1)) := by
  obtain ⟨year, month, day⟩ := date
  obtain ⟨years, ⟨first, last⟩, least, most⟩ := occurs_iff.mp occurs
  dsimp only at *
  unfold dayOf monthOf yearOf marchMonth yearStart
  by_cases february : month = 2
  · subst february
    by_cases leap : isLeap year
    · simp only [daysInMonth, leap, if_true] at most
      simp only [isLeap, Bool.and_eq_true, Bool.or_eq_true, beq_iff_eq,
        bne_iff_ne] at leap
      simp only [Nat.le_refl, if_true]
      omega
    · simp only [daysInMonth, leap, if_true, Bool.false_eq_true,
        if_false] at most
      simp only [Nat.le_refl, if_true]
      omega
  · have thirty : day ≤ 30 ∨ day = 31 ∧ month ≠ 4 ∧ month ≠ 6 ∧ month ≠ 9 ∧
        month ≠ 11 := by
      simp only [daysInMonth, if_neg february] at most
      split at most <;> omega
    clear most
    interval_cases month <;>
      simp only [Nat.reduceLeDiff, if_true, if_false] <;> omega

theorem ofDayNumber_dayNumber {date : Date} (occurs : Occurs date) :
    ofDayNumber (dayNumber date) = date := by
  obtain ⟨least, most, month, before⟩ := dayOf_range occurs
  have year : yearOfEra (yearStart (yearOf date % 400) + dayOf date) =
      yearOf date % 400 :=
    yearOfEra_add (by omega) (by omega) least most before
  have inEra : 0 ≤ yearStart (yearOf date % 400) + dayOf date ∧
      yearStart (yearOf date % 400) + dayOf date < 146097 := by
    unfold yearStart
    omega
  have day :
      dayOfEra (dayNumber date) = yearStart (yearOf date % 400) +
        dayOf date := by
    rw [dayNumber_eq, dayOfEra]
    omega
  have era : (dayNumber date + 719468) / 146097 = yearOf date / 400 := by
    rw [dayNumber_eq]
    omega
  have months :
      monthCount (dayNumber date) = 12 * yearOf date + monthOf date + 2 := by
    rw [monthCount, marchYear, yearDay, day, year, era, add_sub_cancel_left,
      month]
    omega
  have inMonth : monthDay (dayNumber date) = date.day := by
    rw [monthDay, yearDay, day, year, add_sub_cancel_left, month, dayOf]
    omega
  obtain ⟨_, range, _⟩ := occurs_iff.mp occurs
  rw [ofDayNumber_eq, months, inMonth]
  obtain ⟨year, month, day⟩ := date
  simp only [yearOf, monthOf] at range ⊢
  simp only [Date.mk.injEq]
  split <;> omega

/-! ## Times of Greenwich -/

/-- A time of Greenwich, of a date in the years 1 to 9999. -/
structure Utc (time : DateTime) : Prop where
  date : Occurs time.date
  hour : time.hour < 24
  minute : time.minute < 60
  second : time.second < 60
  micro : time.micro < 1000000
  offset : time.offset = some 0

theorem ofMoment_instant {time : DateTime} (utc : Utc time) :
    ofMoment (Value.instant time) = time := by
  obtain ⟨date, hour, minute, second, micro, offset⟩ := time
  obtain ⟨occurs, hours, minutes, seconds, micros, rfl⟩ := utc
  dsimp only at *
  have instant : Value.instant ⟨date, hour, minute, second, micro, some 0⟩ =
      (dayNumber date * 86400 + (hour * 3600 + minute * 60 + second : Nat)) *
        1000000 + micro := by
    simp only [Value.instant, Option.getD_some]
    omega
  rw [instant]
  generalize clock : hour * 3600 + minute * 60 + second = rest
  have seconds :
      ((dayNumber date * 86400 + (rest : Nat)) * 1000000 + micro) / 1000000 =
      dayNumber date * 86400 + (rest : Nat) := by omega
  have days :
      (dayNumber date * 86400 + (rest : Nat)) / 86400 = dayNumber date := by
    omega
  simp (disch := decide) only [ofMoment, Int.fdiv_eq_ediv_of_nonneg, seconds,
    days, ofDayNumber_dayNumber occurs, add_sub_cancel_left, Int.toNat_natCast,
    DateTime.mk.injEq, true_and, and_true]
  omega

theorem known_of_utc {time : DateTime} (utc : Utc time) :
    Known (Value.instant time) := by
  rw [Known, ofMoment_instant utc]
  exact (occurs_iff.mp utc.date).1

end PageFlow.Calendar
