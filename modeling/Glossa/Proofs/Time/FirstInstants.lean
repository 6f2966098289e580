import Glossa.Proofs.Time.Changes

/-!
# First instants of local days

The first instant of a local day is the earliest one at which the clocks show its date. A day whose midnight is shown starts
at midnight (`IsFirstOf.localAt_eq_midnight`): clocks are not put forward over a midnight and soon back again. So the earliest
instant of a midnight is the first one of the day, or there is none (`earliest?_midnight`).
-/

namespace Glossa.Zone

variable {z : Zone} {d n today : Int} {t u : Instant}

/-- The instant is the first kept one on a local day. -/
def IsFirstOf (z : Zone) (d : Int) (t : Instant) : Prop :=
  IsLeast {u | Instant.isKept u = true ∧ (z.localAt u).day = d} t

/-- The clocks show the local day at a kept instant. -/
def HasDay (z : Zone) (d : Int) : Prop := ∃ t, Instant.isKept t = true ∧ (z.localAt t).day = d

theorem HasDay.exists_isFirstOf (has : z.HasDay d) : ∃ t, z.IsFirstOf d t :=
  Instant.exists_isLeast has fun _ among => among.1

/-! ## Midnight -/

theorem day_midnight (d : Int) : LocalSeconds.day (d * secondsPerDay) = d := by
  simp only [LocalSeconds.day, secondsPerDay]
  omega

theorem day_before_midnight (d : Int) : LocalSeconds.day (d * secondsPerDay - 1) = d - 1 := by
  simp only [LocalSeconds.day, secondsPerDay]
  omega

theorem eq_midnight_of_day_lt {l : Int} (before : LocalSeconds.day (l - 1) < d) (day : LocalSeconds.day l = d) :
    l = d * secondsPerDay := by
  simp only [LocalSeconds.day, secondsPerDay] at *
  omega

theorem IsFirstOf.localAt_eq_midnight (orderly : z.Orderly) (first : z.IsFirstOf d t) (kept : Instant.isKept u = true)
    (midnight : z.localAt u = d * secondsPerDay) : z.localAt t = d * secondsPerDay := by
  obtain ⟨⟨kept', day⟩, least⟩ := first
  have later : t ≤ u := least ⟨kept, midnight ▸ day_midnight d⟩
  refine eq_midnight_of_day_lt ?_ day
  by_cases start : ∃ span ∈ z.spans, span.1 = t
  · -- After a change midnight would not come any more.
    obtain ⟨⟨_, time⟩, among, rfl⟩ := start
    have le := orderly.day_le among later
    rw [midnight, day_before_midnight] at le
    exact Int.lt_of_le_sub_one le
  · -- Between changes the instant before shows the second before.
    have no_first : Instant.first ≠ t := fun same => start ⟨_, List.mem_cons_self .., same⟩
    have no_change : ∀ change ∈ z.changes, change.1 ≠ t :=
      fun _ among same => start ⟨_, List.mem_cons_of_mem _ among, same⟩
    rw [← localAt_sub_one no_change]
    have le : (z.localAt (t - 1)).day ≤ d := by
      rw [localAt_sub_one no_change, ← day]
      exact LocalSeconds.day_le_day (Int.sub_le_self _ (by decide))
    refine lt_of_le_of_ne le fun same_day => ?_
    have earlier := least ⟨Instant.isKept_sub_one kept' no_first, same_day⟩
    exact absurd (Int.le_sub_one_iff.1 earlier) (Int.lt_irrefl t)

/-- The earliest instant of a midnight is the first one of the day, or there is none. -/
theorem earliest?_midnight (orderly : z.Orderly) (first : z.IsFirstOf d t) (same : z.HasDay n → d = n) :
    z.earliest? (n * secondsPerDay) = if z.localAt t = n * secondsPerDay then some t else none := by
  split
  next midnight =>
    have day : d = n := by rw [← first.1.2, midnight, day_midnight]
    rw [earliest?_eq_some_iff_isLeast_kept]
    refine ⟨⟨midnight, first.1.1⟩, fun u among => first.2 ⟨among.2, ?_⟩⟩
    rw [among.1, day_midnight, day]
  next other =>
    refine Option.eq_none_iff_forall_ne_some.2 fun u found => other ?_
    obtain ⟨⟨shown, kept⟩, -⟩ := earliest?_eq_some_iff_isLeast_kept.1 found
    have day : d = n := same ⟨u, kept, shown ▸ day_midnight n⟩
    subst day
    exact first.localAt_eq_midnight orderly kept shown

/-! ## Days before and after -/

theorem exists_next_day (short : z.OffsetsWithinDay) (later : today + 1 ≤ Date.lastDay) :
    ∃ d, IsLeast {d | today < d ∧ z.HasDay d} d := by
  have near := short.dist Instant.last
  have late : Date.lastDay ≤ (z.localAt Instant.last).day := by
    simp only [Instant.last, LocalSeconds.day, secondsPerDay] at *
    omega
  have some_day : (z.localAt Instant.last).day ∈ {d | today < d ∧ z.HasDay d} :=
    ⟨by omega, _, by decide, rfl⟩
  obtain ⟨d, among, least⟩ := Int.exists_least_of_bdd ⟨today, fun d among => Int.le_of_lt among.1⟩ ⟨_, some_day⟩
  exact ⟨d, among, fun e other => least e other⟩

theorem exists_previous_day (short : z.OffsetsWithinDay) (earlier : Date.firstDay ≤ today - 1) :
    ∃ d, IsGreatest {d | d < today ∧ z.HasDay d} d := by
  have near := short.dist Instant.first
  have early : (z.localAt Instant.first).day ≤ Date.firstDay := by
    simp only [Instant.first, LocalSeconds.day, secondsPerDay] at *
    omega
  have some_day : (z.localAt Instant.first).day ∈ {d | d < today ∧ z.HasDay d} :=
    ⟨by omega, _, by decide, rfl⟩
  obtain ⟨d, among, greatest⟩ :=
    Int.exists_greatest_of_bdd ⟨today, fun d among => Int.le_of_lt among.1⟩ ⟨_, some_day⟩
  exact ⟨d, among, fun e other => greatest e other⟩

end Glossa.Zone
