import Glossa.Proofs.Time.Zone

/-!
# Changes of the clocks

The times that a zone has had follow one another (`spans`). Clocks are put back from time to time, but in no zone with a name
are they put back to before a midnight that was past at the change before (`orderly_of_named?`). So a midnight that was past at
one change does not come after it (`Orderly.day_le`). The changes of the past are looked through for this; those that return
every year lie months apart, since the day of a rule lies in its month.
-/

namespace Glossa

/-! ## Changes that return -/

/-- The days among which a rule finds its day lie in every month. -/
def DayRule.isInMonth : DayRule → Bool
  | .last _ => true
  | .onOrAfter _ start => 1 ≤ start && start ≤ 25

theorem DayRule.toDay_bounds {rule : DayRule} (inside : rule.isInMonth = true) (y : Int) (m : Nat) :
    Date.yearStart y + 28 * m ≤ rule.toDay y (m + 1) ∧ rule.toDay y (m + 1) ≤ Date.yearStart y + 31 * m + 31 := by
  have before := Date.daysBeforeMonth_bounds y m
  cases rule with
  | last day =>
    have long := Date.monthLength_le y (m + 1)
    have short := Date.le_monthLength y (m + 1)
    simp only [toDay, Date.toDay]
    omega
  | onOrAfter day start =>
    simp only [isInMonth, Bool.and_eq_true, decide_eq_true_eq] at inside
    simp only [toDay, Date.toDay]
    omega

namespace YearlyChange

variable {c c' : YearlyChange} {y y' : Int}

/-- The instant of the change in a year. -/
def start (c : YearlyChange) (y : Int) : Int := c.day.toDay y c.month * secondsPerDay + c.second

/-- The change lies well inside the year. -/
structure IsInYear (c : YearlyChange) : Prop where
  month : 2 ≤ c.month ∧ c.month ≤ 11
  second : c.second.natAbs ≤ 86400
  day : c.day.isInMonth = true

instance : DecidablePred IsInYear := fun c =>
  decidable_of_iff ((2 ≤ c.month ∧ c.month ≤ 11) ∧ c.second.natAbs ≤ 86400 ∧ c.day.isInMonth = true)
    ⟨fun ⟨month, second, day⟩ => ⟨month, second, day⟩, fun ⟨month, second, day⟩ => ⟨month, second, day⟩⟩

theorem IsInYear.start_bounds (inside : c.IsInYear) (y : Int) :
    (Date.yearStart y + 28 * c.month - 29) * secondsPerDay ≤ c.start y ∧
      c.start y ≤ (Date.yearStart y + 31 * c.month + 1) * secondsPerDay := by
  obtain ⟨⟨low, high⟩, second, day⟩ := inside
  obtain ⟨m, month⟩ : ∃ m, c.month = m + 1 := Nat.exists_eq_add_one_of_ne_zero (by omega)
  have bounds := DayRule.toDay_bounds day y m
  rw [start, month, secondsPerDay]
  omega

theorem IsInYear.apart_of_month (inside : c.IsInYear) (inside' : c'.IsInYear) (later : c.month + 3 ≤ c'.month) (y : Int) :
    c.start y + 2 * secondsPerDay ≤ c'.start y := by
  have finish := (inside.start_bounds y).2
  have start := (inside'.start_bounds y).1
  have autumn := inside.month
  rw [secondsPerDay] at *
  omega

theorem IsInYear.apart_of_year (inside : c.IsInYear) (inside' : c'.IsInYear) (later : y < y') :
    c.start y + 2 * secondsPerDay ≤ c'.start y' := by
  have finish := (inside.start_bounds y).2
  have start := (inside'.start_bounds y').1
  have autumn := inside.month
  have spring := inside'.month
  have year : Date.yearStart y + 365 ≤ Date.yearStart y' := by
    simp only [Date.yearStart]
    omega
  rw [secondsPerDay] at *
  omega

/-- A change that returns comes days after what was before its first year. -/
theorem IsInYear.apart_of_start (inside : c.IsInYear) {s : Int} (before : s ≤ Date.yearStart y * secondsPerDay)
    (later : y ≤ y') : s + 2 * secondsPerDay ≤ c.start y' := by
  have start := (inside.start_bounds y').1
  have spring := inside.month
  have year := Date.yearStart_le later
  rw [secondsPerDay] at *
  omega

end YearlyChange

namespace ZoneTable

variable {t : ZoneTable}

/-- The starts of the times up to the last change of the past, each with the place of the time among the kinds. -/
def past (t : ZoneTable) : List (Instant × Nat) := (Instant.first, 0) :: t.changes

/-- The changes that return lie inside the year and months apart, and the changes of the past before them. -/
structure IsSeasonal (t : ZoneTable) : Prop where
  inside : ∀ c ∈ t.yearly, c.IsInYear
  apart : t.yearly.Pairwise fun c c' => c.month + 3 ≤ c'.month
  past : ∀ change ∈ t.past, change.1 ≤ Date.yearStart t.yearlyFrom * secondsPerDay

theorem pairwise_yearlyChanges (seasonal : t.IsSeasonal) :
    t.yearlyChanges.Pairwise fun a b => a.1 + 2 * secondsPerDay ≤ b.1 := by
  have inside := seasonal.inside
  rw [yearlyChanges, List.pairwise_flatMap]
  constructor
  · intro i _
    rw [List.pairwise_map]
    exact seasonal.apart.imp_of_mem fun listed listed' later => (inside _ listed).apart_of_month (inside _ listed') later _
  · refine List.pairwise_lt_range.imp fun {i j} earlier a among b among' => ?_
    obtain ⟨c, listed, rfl⟩ := List.mem_map.1 among
    obtain ⟨c', listed', rfl⟩ := List.mem_map.1 among'
    exact (inside c listed).apart_of_year (inside c' listed') (by omega)

theorem past_before_yearlyChanges (seasonal : t.IsSeasonal) :
    ∀ a ∈ t.past, ∀ b ∈ t.yearlyChanges, a.1 + 2 * secondsPerDay ≤ b.1 := by
  intro a before b among
  obtain ⟨i, -, among⟩ := List.mem_flatMap.1 among
  obtain ⟨c, listed, rfl⟩ := List.mem_map.1 among
  exact (seasonal.inside c listed).apart_of_start (seasonal.past a before) (by omega)

end ZoneTable

namespace Zone

variable {z : Zone} {t u : Int} {time now : ZoneTime} {changes : List (Instant × ZoneTime)}

/-! ## Times after one another -/

/-- The times of the zone, each with its start. -/
def spans (z : Zone) : List (Instant × ZoneTime) := (Instant.first, z.initial) :: z.changes

/-- A time starts after another one, and with no midnight to come that was past when the other one started. -/
def Follows (a b : Instant × ZoneTime) : Prop :=
  a.1 < b.1 ∧ LocalSeconds.day (a.1 + a.2.offset - 1) ≤ LocalSeconds.day (b.1 + b.2.offset - 1)

instance (a b : Instant × ZoneTime) : Decidable (Follows a b) := inferInstanceAs (Decidable (_ ∧ _))

instance : Trans Follows Follows Follows where
  trans before after := ⟨Int.lt_trans before.1 after.1, Int.le_trans before.2 after.2⟩

theorem follows_of_apart {s s' : Int} {time time' : ZoneTime} (short : time.offset.natAbs < 86400)
    (short' : time'.offset.natAbs < 86400) (apart : s + 2 * secondsPerDay ≤ s') : Follows (s, time) (s', time') := by
  rw [secondsPerDay] at apart
  constructor
  · show s < s'
    omega
  · refine LocalSeconds.day_le_day ?_
    show s + time.offset - 1 ≤ s' + time'.offset - 1
    omega

/-- Each time of the zone follows all those before it. -/
def Orderly (z : Zone) : Prop := z.spans.Pairwise Follows

theorem isSeasonal_of_mem {p : String × ZoneTable} (listed : p ∈ ZoneTable.directory) : p.2.IsSeasonal := by
  have inside : ∀ p ∈ ZoneTable.directory, ∀ c ∈ p.2.yearly, c.IsInYear := by decide +kernel
  have apart : ∀ p ∈ ZoneTable.directory, p.2.yearly.Pairwise fun c c' => c.month + 3 ≤ c'.month := by decide +kernel
  have past : ∀ p ∈ ZoneTable.directory, ∀ change ∈ p.2.past,
      change.1 ≤ Date.yearStart p.2.yearlyFrom * secondsPerDay := by decide +kernel
  exact ⟨inside p listed, apart p listed, past p listed⟩

theorem isChain_past : ∀ p ∈ ZoneTable.directory,
    (p.2.past.map fun (start, k) => (start, p.2.kind k)).IsChain Follows := by
  decide +kernel

theorem orderly_of_named? {name : Text} (known : named? name = some z) : z.Orderly := by
  obtain ⟨p, listed, given, rfl⟩ := exists_table known
  have seasonal := isSeasonal_of_mem listed
  have apart : ∀ a b : Instant × Nat, a.1 + 2 * secondsPerDay ≤ b.1 →
      Follows (a.1, p.2.kind a.2) (b.1, p.2.kind b.2) := fun a b =>
    follows_of_apart (natAbs_offset_kind_lt listed a.2) (natAbs_offset_kind_lt listed b.2)
  have places : (p.2.toZone given).spans =
      (p.2.past ++ p.2.yearlyChanges).map fun (start, k) => (start, p.2.kind k) := rfl
  rw [Orderly, places, List.pairwise_map, List.pairwise_append]
  refine ⟨List.pairwise_map.1 (List.isChain_iff_pairwise.1 (isChain_past p listed)), ?_, ?_⟩
  · exact (ZoneTable.pairwise_yearlyChanges seasonal).imp (apart _ _)
  · exact fun a before b after => apart a b (ZoneTable.past_before_yearlyChanges seasonal a before b after)

/-! ## The clocks between changes and over them -/

theorem timeAfter_congr (same : ∀ change ∈ changes, change.1 ≤ t ↔ change.1 ≤ u) (now : ZoneTime) :
    timeAfter t now changes = timeAfter u now changes := by
  induction changes generalizing now with
  | nil => rfl
  | cons change changes ih =>
    obtain ⟨head, rest⟩ := List.forall_mem_cons.1 same
    rw [timeAfter, timeAfter, ih rest]
    simp only [head]

theorem localAt_sub_one (no_change : ∀ change ∈ z.changes, change.1 ≠ t) : z.localAt (t - 1) = z.localAt t - 1 := by
  have same : ∀ change ∈ z.changes, change.1 ≤ t - 1 ↔ change.1 ≤ t := fun change among =>
    Int.le_sub_one_iff.trans (lt_iff_le_and_ne.trans (and_iff_left (no_change change among)))
  rw [localAt, localAt, timeAt, timeAt, timeAfter_congr same]
  exact sub_add_eq_add_sub t 1 _

theorem timeAfter_start (ordered : ((t, now) :: changes).Pairwise Follows) : timeAfter t now changes = now := by
  cases changes with
  | nil => rfl
  | cons change changes =>
    have first := (List.pairwise_cons.1 ordered).1 change (List.mem_cons_self ..)
    exact if_neg (Int.not_le.2 first.1)

theorem day_start_le (ordered : ((t, now) :: changes).Pairwise Follows) (later : t ≤ u) :
    LocalSeconds.day (t + now.offset - 1) ≤ LocalSeconds.day (u + (timeAfter u now changes).offset - 1) := by
  induction changes generalizing t now with
  | nil => exact LocalSeconds.day_le_day (Int.sub_le_sub_right (Int.add_le_add_right later _) 1)
  | cons change changes ih =>
    obtain ⟨first, rest⟩ := List.pairwise_cons.1 ordered
    rw [timeAfter]
    split
    next reached => exact Int.le_trans (first change (List.mem_cons_self ..)).2 (ih rest reached)
    next => exact LocalSeconds.day_le_day (Int.sub_le_sub_right (Int.add_le_add_right later _) 1)

theorem day_timeAfter_le {start : Int} (ordered : ((start, now) :: changes).Pairwise Follows)
    (span : (t, time) ∈ (start, now) :: changes) (later : t ≤ u) :
    LocalSeconds.day (t + (timeAfter t now changes).offset - 1) ≤
      LocalSeconds.day (u + (timeAfter u now changes).offset - 1) := by
  -- On the changes: those up to the start are passed at both instants.
  induction changes generalizing start now with
  | nil =>
    cases List.mem_singleton.1 span
    exact day_start_le ordered later
  | cons change changes ih =>
    rcases List.mem_cons.1 span with same | among
    · cases same
      rw [timeAfter_start ordered]
      exact day_start_le ordered later
    · have rest := (List.pairwise_cons.1 ordered).2
      have reached : change.1 ≤ t := by
        rcases List.mem_cons.1 among with same | after
        · exact same ▸ Int.le_refl _
        · exact Int.le_of_lt ((List.pairwise_cons.1 rest).1 _ after).1
      rw [timeAfter, timeAfter, if_pos reached, if_pos (Int.le_trans reached later)]
      exact ih rest among

/-- After the start of a time no midnight comes that was past then. -/
theorem Orderly.day_le (orderly : z.Orderly) (span : (t, time) ∈ z.spans) (later : t ≤ u) :
    LocalSeconds.day (z.localAt t - 1) ≤ LocalSeconds.day (z.localAt u - 1) :=
  day_timeAfter_le orderly span later

end Zone

end Glossa
