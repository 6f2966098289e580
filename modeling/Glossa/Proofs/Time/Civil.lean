import Glossa.Time.Civil

/-!
# Days and dates

Each numbered day has exactly one date: the date is one that exists, and numbers the day again (`toDay_ofDay`), and each date
that exists is the one of its day (`ofDay_toDay`). The time of day is found again from hour, minute and second.
-/

namespace Glossa

namespace Date

variable {y : Int} {n : Int}

/-! ## Years -/

theorem isLeap_iff : isLeap y = true ↔ y % 4 = 0 ∧ (y % 100 ≠ 0 ∨ y % 400 = 0) := by
  simp only [isLeap, Bool.and_eq_true, Bool.or_eq_true, beq_iff_eq, bne_iff_ne]

/-- The days in a year. -/
def yearLength (y : Int) : Nat := if isLeap y then 366 else 365

theorem yearStart_succ (y : Int) : yearStart (y + 1) = yearStart y + yearLength y := by
  by_cases leap : isLeap y
  · rw [yearLength, if_pos leap]
    rw [isLeap_iff] at leap
    simp only [yearStart]
    omega
  · rw [yearLength, if_neg leap]
    rw [isLeap_iff] at leap
    simp only [yearStart]
    omega

theorem yearStart_estimate (n : Int) :
    yearStart ((n + 719162) * 400 / 146097) ≤ n ∧ n < yearStart ((n + 719162) * 400 / 146097 + 1 + 1 + 1) := by
  simp only [yearStart]
  omega

/-- A day is not before the start of its year, and before the start of the next. -/
theorem yearStart_yearOf (n : Int) : yearStart (yearOf n) ≤ n ∧ n < yearStart (yearOf n + 1) := by
  have bounds := yearStart_estimate n
  rw [yearOf]
  generalize (n + 719162) * 400 / 146097 = y at bounds ⊢
  -- The estimate is `y + 1`, and the year is one of `y`, `y + 1` and `y + 2`.
  by_cases early : n < yearStart (y + 1)
  · rw [if_pos early, Int.add_sub_cancel]
    exact ⟨bounds.1, early⟩
  · rw [if_neg early]
    by_cases late : yearStart (y + 1 + 1) ≤ n
    · rw [if_pos late]
      exact ⟨late, bounds.2⟩
    · rw [if_neg late]
      exact ⟨Int.not_lt.1 early, Int.not_le.1 late⟩

/-! ## Months -/

theorem daysBeforeMonth_succ (y : Int) {m : Nat} (positive : 0 < m) :
    daysBeforeMonth y (m + 1) = daysBeforeMonth y m + monthLength y m := by
  cases m with
  | zero => omega
  | succ m => rfl

theorem daysBeforeMonth_year (y : Int) : daysBeforeMonth y 13 = yearLength y := by
  by_cases leap : isLeap y <;> simp [daysBeforeMonth, monthLength, yearLength, leap]

theorem monthLength_le (y : Int) (m : Nat) : monthLength y m ≤ 31 := by
  unfold monthLength
  split
  · split <;> omega
  all_goals omega

theorem le_monthLength (y : Int) (m : Nat) : 28 ≤ monthLength y m := by
  unfold monthLength
  split
  · split <;> omega
  all_goals omega

theorem daysBeforeMonth_bounds (y : Int) (m : Nat) :
    28 * m ≤ daysBeforeMonth y (m + 1) ∧ daysBeforeMonth y (m + 1) ≤ 31 * m := by
  induction m with
  | zero => exact ⟨Nat.le_refl _, Nat.le_refl _⟩
  | succ m ih =>
    have long := monthLength_le y (m + 1)
    have short := le_monthLength y (m + 1)
    rw [daysBeforeMonth]
    omega

/-- The walk through the months ends at the month and the day that number the day of the year. -/
theorem monthAndDay_spec (left : Nat) {month rest : Nat} (positive : 0 < month) (december : month + left = 12)
    (within : daysBeforeMonth y month + rest < yearLength y) :
    1 ≤ (monthAndDay y left month rest).1 ∧ (monthAndDay y left month rest).1 ≤ 12 ∧
    1 ≤ (monthAndDay y left month rest).2 ∧
    (monthAndDay y left month rest).2 ≤ monthLength y (monthAndDay y left month rest).1 ∧
    daysBeforeMonth y (monthAndDay y left month rest).1 + (monthAndDay y left month rest).2 =
      daysBeforeMonth y month + rest + 1 := by
  have next := daysBeforeMonth_succ y positive
  -- On the months left: a month that is passed moves its days from the rest to the days before.
  induction left generalizing month rest with
  | zero =>
    have year := daysBeforeMonth_year y
    have last : month = 12 := december
    subst last
    rw [year] at next
    simp only [monthAndDay]
    omega
  | succ left ih =>
    rw [monthAndDay]
    split
    next short =>
      dsimp only
      omega
    next long =>
      have positive' : 0 < month + 1 := by omega
      have within' : daysBeforeMonth y (month + 1) + (rest - monthLength y month) < yearLength y := by omega
      have found := ih positive' (by omega) within' (daysBeforeMonth_succ y positive')
      omega

/-! ## Dates -/

/-- The date of a day exists in its month and numbers the day. -/
theorem ofDay_spec (n : Int) :
    1 ≤ (ofDay n).month ∧ (ofDay n).month ≤ 12 ∧ 1 ≤ (ofDay n).day ∧
    (ofDay n).day ≤ monthLength (ofDay n).year (ofDay n).month ∧ (ofDay n).toDay = n := by
  have bounds := yearStart_yearOf n
  rw [yearStart_succ] at bounds
  have within : daysBeforeMonth (yearOf n) 1 + (n - yearStart (yearOf n)).toNat < yearLength (yearOf n) := by
    simp only [daysBeforeMonth]
    omega
  obtain ⟨month, december, day, length, place⟩ := monthAndDay_spec 11 Nat.one_pos rfl within
  refine ⟨month, december, day, length, ?_⟩
  show yearStart (yearOf n) + daysBeforeMonth (yearOf n) (ofDay n).month + (ofDay n).day - 1 = n
  change daysBeforeMonth (yearOf n) (ofDay n).month + (ofDay n).day = _ at place
  simp only [daysBeforeMonth] at place
  omega

theorem toDay_ofDay (n : Int) : (ofDay n).toDay = n := (ofDay_spec n).2.2.2.2

/-- The month and the day of a date are those of some day. -/
structure Exists (d : Date) : Prop where
  month : 1 ≤ d.month ∧ d.month ≤ 12
  day : 1 ≤ d.day ∧ d.day ≤ monthLength d.year d.month

theorem exists_ofDay (n : Int) : (ofDay n).Exists := by
  obtain ⟨month, december, day, length, -⟩ := ofDay_spec n
  exact ⟨⟨month, december⟩, ⟨day, length⟩⟩

theorem yearStart_le {y y' : Int} (le : y ≤ y') : yearStart y ≤ yearStart y' := by
  simp only [yearStart]
  omega

theorem yearOf_eq (start : yearStart y ≤ n) (finish : n < yearStart (y + 1)) : yearOf n = y := by
  have bounds := yearStart_yearOf n
  rcases Int.lt_trichotomy (yearOf n) y with earlier | same | later
  · have le := yearStart_le (Int.add_one_le_of_lt earlier)
    omega
  · exact same
  · have le := yearStart_le (Int.add_one_le_of_lt later)
    omega

theorem daysBeforeMonth_add_le (y : Int) {m m' : Nat} (positive : 0 < m) (before : m < m') :
    daysBeforeMonth y m + monthLength y m ≤ daysBeforeMonth y m' := by
  induction before with
  | refl => exact Nat.le_of_eq (daysBeforeMonth_succ y positive).symm
  | @step later before ih =>
    have next : daysBeforeMonth y later.succ = daysBeforeMonth y later + monthLength y later :=
      daysBeforeMonth_succ y (Nat.lt_of_lt_of_le (Nat.succ_pos m) before)
    omega

theorem Exists.yearOf_toDay {d : Date} (real : d.Exists) : yearOf d.toDay = d.year := by
  have december := daysBeforeMonth_add_le d.year real.month.1 (Nat.lt_succ_of_le real.month.2)
  have day := real.day
  have next := yearStart_succ d.year
  rw [daysBeforeMonth_year] at december
  refine yearOf_eq ?_ ?_
  · rw [toDay]
    omega
  · rw [toDay]
    omega

/-- Different dates number different days. -/
theorem eq_of_toDay_eq {d e : Date} (real : d.Exists) (real' : e.Exists) (same : d.toDay = e.toDay) : d = e := by
  have same_year : d.year = e.year := by rw [← real.yearOf_toDay, ← real'.yearOf_toDay, same]
  obtain ⟨year, month, day⟩ := d
  obtain ⟨_, month', day'⟩ := e
  dsimp only at same_year
  subst same_year
  have days := real.day
  have days' := real'.day
  have positive : 0 < month := real.month.1
  have positive' : 0 < month' := real'.month.1
  simp only [toDay] at same days days'
  -- Of two months the earlier one ends before the later one starts.
  rcases Nat.lt_trichotomy month month' with earlier | same_month | later
  · have le := daysBeforeMonth_add_le year positive earlier
    omega
  · subst same_month
    have same_day : day = day' := by omega
    rw [same_day]
  · have le := daysBeforeMonth_add_le year positive' later
    omega

theorem ofDay_toDay {d : Date} (real : d.Exists) : ofDay d.toDay = d :=
  eq_of_toDay_eq (exists_ofDay _) real (toDay_ofDay _)

theorem isValid_ofDay (kept : firstDay ≤ n ∧ n ≤ lastDay) : (ofDay n).isValid = true := by
  obtain ⟨month, december, day, length, number⟩ := ofDay_spec n
  simp only [isValid, number, month, december, day, length, kept, decide_true, Bool.and_self]

theorem month_ofDay_le (n : Int) : (ofDay n).month ≤ 12 := (ofDay_spec n).2.1

theorem day_ofDay_le (n : Int) : (ofDay n).day ≤ 31 := Nat.le_trans (ofDay_spec n).2.2.2.1 (monthLength_le ..)

/-- The days of the years of up to four digits. -/
theorem bounds_of_year (year : 0 ≤ (ofDay n).year ∧ (ofDay n).year ≤ 9999) : -719528 ≤ n ∧ n < 2932897 := by
  have bounds := yearStart_yearOf n
  change 0 ≤ yearOf n ∧ yearOf n ≤ 9999 at year
  generalize yearOf n = y at bounds year
  simp only [yearStart] at bounds
  omega

end Date

namespace LocalSeconds

variable {l : LocalSeconds}

theorem day_le_day {l' : LocalSeconds} (le : l ≤ l') : l.day ≤ l'.day := Int.ediv_le_ediv (by decide) le

theorem day_mul_add (l : LocalSeconds) : l.day * secondsPerDay + l.secondOfDay = l := by
  simp only [day, secondOfDay, secondsPerDay]
  omega

/-- The time of day from its hour, minute and second, each in its range. -/
theorem secondOfDay_spec (l : LocalSeconds) :
    l.hour * 3600 + l.minute * 60 + l.second = l.secondOfDay ∧ l.hour ≤ 23 ∧ l.minute ≤ 59 ∧ l.second ≤ 59 := by
  have bound : l.secondOfDay < 86400 := by
    simp only [secondOfDay, secondsPerDay]
    omega
  simp only [hour, minute, second]
  omega

theorem ofDate_date (l : LocalSeconds) (s : Int) : ofDate l.date s = l.day * secondsPerDay + s := by
  rw [ofDate, date, Date.toDay_ofDay]

theorem ofDate_secondOfDay (l : LocalSeconds) : ofDate l.date l.secondOfDay = l := by
  rw [ofDate_date, day_mul_add]

theorem secondOfDay_lt (l : LocalSeconds) : l.secondOfDay < 86400 := by
  simp only [secondOfDay, secondsPerDay]
  omega

theorem day_ofDate (d : Date) {s : Nat} (within : s < 86400) : day (ofDate d s) = d.toDay := by
  simp only [day, ofDate, secondsPerDay]
  omega

/-- A local time is made of its date and its time of day. -/
theorem eq_ofDate_iff {d : Date} (real : d.Exists) {s : Nat} (within : s < 86400) :
    l = ofDate d s ↔ l.date = d ∧ l.secondOfDay = s := by
  constructor
  · rintro rfl
    constructor
    · rw [date, day_ofDate d within, Date.ofDay_toDay real]
    · simp only [secondOfDay, ofDate, secondsPerDay]
      omega
  · rintro ⟨rfl, rfl⟩
    exact (ofDate_secondOfDay l).symm

theorem date_ofDate (l : LocalSeconds) : (ofDate l.date 0).date = l.date := by
  have same_day : LocalSeconds.day (l.day * secondsPerDay + 0) = l.day := by
    simp only [day, secondsPerDay]
    omega
  rw [ofDate_date, date, same_day]
  rfl

end LocalSeconds

end Glossa
