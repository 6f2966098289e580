import Mathlib.Data.Set.Subsingleton
import Glossa.Proofs.Time.DateText.Relative
import Glossa.Proofs.Time.Zone

/-!
# Months from now

Words that name a number of months move the local date on the calendar and keep the time of day. The text is read as the one
instant that shows both, so there is a reading where the clocks show them once, and none where they show them twice
(`read?_of_months`).
-/

namespace Glossa

namespace Date

variable {d e : Date} {months : Int}

/-- A date some months after another: the month is counted on, and the day cut to the length of the month. -/
structure MovedBy (months : Int) (d e : Date) : Prop where
  month : e.year * 12 + e.month = d.year * 12 + d.month + months
  of_year : 1 ≤ e.month ∧ e.month ≤ 12
  day : e.day = min d.day (monthLength e.year e.month)

theorem movedBy_addMonths (d : Date) (months : Int) : MovedBy months d (d.addMonths months) := by
  refine ⟨?_, ?_, rfl⟩
  · simp only [addMonths]
    omega
  · simp only [addMonths]
    omega

theorem MovedBy.exists (moved : MovedBy months d e) (real : d.Exists) : e.Exists := by
  have long := le_monthLength e.year e.month
  have day := moved.day
  have positive := real.day.1
  exact ⟨moved.of_year, by omega, by omega⟩

/-- There is but one date some months on. -/
theorem MovedBy.eq_addMonths (moved : MovedBy months d e) : e = d.addMonths months := by
  have other := movedBy_addMonths d months
  generalize d.addMonths months = e' at other
  obtain ⟨year, month, day⟩ := e
  obtain ⟨year', month', day'⟩ := e'
  have of_year := moved.of_year
  have of_year' := other.of_year
  have place := moved.month
  have place' := other.month
  dsimp only at of_year of_year' place place'
  have same_year : year = year' := by omega
  have same_month : month = month' := by omega
  subst same_year same_month
  have same_day : day = day' := moved.day.trans other.day.symm
  rw [same_day]

end Date

namespace Zone

variable {z : Zone} {d : Date} {second : Nat} {t : Instant}

/-- The kept instants at which the clocks show a date and a time of day. -/
def showing (z : Zone) (d : Date) (second : Nat) : Set Instant :=
  {t | Instant.isKept t = true ∧ (z.localAt t).date = d ∧ (z.localAt t).secondOfDay = second}

theorem mem_showing_iff (real : d.Exists) (within : second < 86400) :
    t ∈ z.showing d second ↔ z.localAt t = .ofDate d second ∧ Instant.isKept t = true := by
  rw [LocalSeconds.eq_ofDate_iff real within, and_comm]
  rfl

theorem only?_ofDate_eq_some_iff (real : d.Exists) (within : second < 86400) :
    z.only? (.ofDate d second) = some t ↔ z.showing d second = {t} := by
  rw [only?_eq_some_iff, Set.ext_iff]
  refine forall_congr' fun u => ?_
  rw [mem_showing_iff real within, Set.mem_singleton_iff]

theorem earliest?_ofDate_eq_some_iff (real : d.Exists) (within : second < 86400) :
    z.earliest? (.ofDate d second) = some t ↔ IsLeast (z.showing d second) t := by
  have same : z.showing d second = {u | z.localAt u = .ofDate d second ∧ Instant.isKept u = true} :=
    Set.ext fun u => mem_showing_iff real within
  rw [earliest?_eq_some_iff_isLeast_kept, same]

theorem exists_isLeast_showing (some_instant : (z.showing d second).Nonempty) : ∃ t, IsLeast (z.showing d second) t :=
  Instant.exists_isLeast some_instant fun _ among => among.1

end Zone

namespace DateText

variable {s a : Text} {words : List Text} {n : Int} {now : Instant}

/-! ## Texts that name months -/

/-- The words for units of the calendar, each with its months. -/
def calendarUnits : List (Text × Int) :=
  [("month".toList, 1), ("months".toList, 1), ("year".toList, 12), ("years".toList, 12)]

/-- The rows of words that name a number of months from now. -/
inductive NamesMonths : List Text → Int → Prop where
  | amount {a unit : Text} {n k : Int} : WritesInt a n → (unit, k) ∈ calendarUnits → NamesMonths [a, unit] (n * k)
  | ago {a unit : Text} {n k : Int} :
      WritesInt a n → (unit, k) ∈ calendarUnits → NamesMonths [a, unit, "ago".toList] (-n * k)
  | next {unit : Text} {k : Int} : (unit, k) ∈ calendarUnits → NamesMonths ["next".toList, unit] (1 * k)
  | last {unit : Text} {k : Int} : (unit, k) ∈ calendarUnits → NamesMonths ["last".toList, unit] (-1 * k)

theorem ofWord?_of_calendarUnits {unit : Text} {k : Int} (listed : (unit, k) ∈ calendarUnits) :
    ∃ u, TimeUnit.ofWord? unit = some u ∧ ∀ n, Shift.ofUnits n u = .months (n * k) := by
  simp only [calendarUnits, List.mem_cons, Prod.mk.injEq, List.not_mem_nil, or_false] at listed
  rcases listed with ⟨rfl, rfl⟩ | ⟨rfl, rfl⟩ | ⟨rfl, rfl⟩ | ⟨rfl, rfl⟩
  · exact ⟨.month, by decide, fun n => by rw [Int.mul_one]; rfl⟩
  · exact ⟨.month, by decide, fun n => by rw [Int.mul_one]; rfl⟩
  · exact ⟨.year, by decide, fun n => rfl⟩
  · exact ⟨.year, by decide, fun n => rfl⟩

theorem ofWords?_of_namesMonths (named : NamesMonths words n) : Shift.ofWords? words = some (.months n) := by
  obtain ⟨unit, k, m, listed, counts, rfl⟩ :
      ∃ unit k m, (unit, k) ∈ calendarUnits ∧ Counts unit words m ∧ n = m * k := by
    cases named with
    | amount written listed => exact ⟨_, _, _, listed, .amount written, rfl⟩
    | ago written listed => exact ⟨_, _, _, listed, .ago written, rfl⟩
    | next listed => exact ⟨_, _, _, listed, .next, rfl⟩
    | last listed => exact ⟨_, _, _, listed, .last, rfl⟩
  obtain ⟨u, known, units⟩ := ofWord?_of_calendarUnits listed
  rw [ofWords?_of_counts known counts, units]

/-! ## The reading -/

/-- A text that names months is read as an instant just when the clocks show the moved date at the time of day of now once and
the date is kept. That is the earliest such instant whenever there is one, for all dates and times but those that are shown
more than once. (For a now that the clocks do not show on a kept day, see `read?`.) -/
theorem read?_of_months (kept : Instant.isKept now = true) (named : NamesMonths s.trim.lower.words n) (z : Zone) :
    ∃ d, Date.MovedBy n (z.localAt now).date d ∧
      (∀ t, read? s now z = some t ↔ d.isValid = true ∧ z.showing d (z.localAt now).secondOfDay = {t}) ∧
      ((∀ t, read? s now z = some t ↔ d.isValid = true ∧ IsLeast (z.showing d (z.localAt now).secondOfDay) t) ↔
        (d.isValid = true → (z.showing d (z.localAt now).secondOfDay).Subsingleton)) := by
  have moved := Date.movedBy_addMonths (z.localAt now).date n
  have real := moved.exists (Date.exists_ofDay _)
  have within := (z.localAt now).secondOfDay_lt
  have read : ∀ t, read? s now z = some t ↔ ((z.localAt now).date.addMonths n).isValid = true ∧
      z.showing ((z.localAt now).date.addMonths n) (z.localAt now).secondOfDay = {t} := by
    intro t
    rw [read?_of_ofWords? kept (ofWords?_of_namesMonths named), Shift.after?, ← Zone.only?_ofDate_eq_some_iff real within]
    split
    next valid => simp only [valid, true_and]
    next invalid => simp only [invalid, false_and, reduceCtorEq]
  refine ⟨_, moved, read, ?_⟩
  generalize (z.localAt now).date.addMonths n = d at read
  generalize (z.localAt now).secondOfDay = second at read
  constructor
  · intro least valid t among u among'
    obtain ⟨first, is_first⟩ := Zone.exists_isLeast_showing ⟨t, among⟩
    have single := ((read first).1 ((least first).2 ⟨valid, is_first⟩)).2
    rw [single] at among among'
    exact among.trans among'.symm
  · intro once t
    rw [read t]
    refine and_congr_right fun valid => ?_
    constructor
    · intro single
      rw [single]
      exact isLeast_singleton
    · intro least
      exact (once valid).eq_singleton_of_mem least.1

/-- A month after the last of January it is the last of February. -/
theorem read?_month_after_january :
    Instant.isKept 1580472000 = true ∧ NamesMonths (Text.words (Text.lower (Text.trim " Next MONTH".toList))) 1 ∧
      read? " Next MONTH".toList 1580472000 .utc = some 1582977600 := by
  have kept : Instant.isKept 1580472000 = true := by decide
  have words : Text.words (Text.lower (Text.trim " Next MONTH".toList)) = ["next".toList, "month".toList] := by decide
  have named : NamesMonths (Text.words (Text.lower (Text.trim " Next MONTH".toList))) 1 :=
    words ▸ .next (List.mem_cons_self ..)
  obtain ⟨d, moved, read, -⟩ := read?_of_months kept named .utc
  have date : d = ⟨2020, 2, 29⟩ := moved.eq_addMonths.trans (by decide +kernel)
  have real := moved.exists (Date.exists_ofDay _)
  refine ⟨kept, named, (read _).2 ⟨?_, ?_⟩⟩
  · rw [date]
    decide +kernel
  · rw [← Zone.only?_ofDate_eq_some_iff real (LocalSeconds.secondOfDay_lt _), date]
    decide +kernel

/-- A month before clocks are put back there is no reading, though the time of day is shown twice. -/
theorem read?_month_before_repeated_hour :
    ∃ z, Zone.covered? "Europe/Berlin".toList = some z ∧ Instant.isKept 1695947400 = true ∧
      NamesMonths (Text.words (Text.lower (Text.trim "1 month".toList))) 1 ∧
      Date.MovedBy 1 (z.localAt 1695947400).date ⟨2023, 10, 29⟩ ∧ (⟨2023, 10, 29⟩ : Date).isValid = true ∧
      IsLeast (z.showing ⟨2023, 10, 29⟩ (z.localAt 1695947400).secondOfDay) 1698539400 ∧
      read? "1 month".toList 1695947400 z = none := by
  have covered : Zone.covered? "Europe/Berlin".toList = some (ZoneTable.berlin.toZone "Europe/Berlin".toList) := by
    decide +kernel
  have words : Text.words (Text.lower (Text.trim "1 month".toList)) = ["1".toList, "month".toList] := by decide
  have digits : "1".toList.all Char.isDigit = true := by decide
  have number : WritesInt "1".toList 1 := .unsigned (by decide) (List.all_eq_true.1 digits)
  have real : (⟨2023, 10, 29⟩ : Date).Exists := ⟨by decide, by decide⟩
  refine ⟨_, covered, by decide, words ▸ .amount number (List.mem_cons_self ..), ⟨?_, by decide, ?_⟩, by decide +kernel,
    ?_, ?_⟩
  · decide +kernel
  · decide +kernel
  · rw [← Zone.earliest?_ofDate_eq_some_iff real (LocalSeconds.secondOfDay_lt _)]
    decide +kernel
  · decide +kernel

end DateText

end Glossa
