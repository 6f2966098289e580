import Glossa.Proofs.Time.DateText.Relative
import Glossa.Proofs.Time.FirstInstants

/-!
# Words for days

`today`, `midnight`, `tomorrow` and `yesterday` are looked up as the midnight of a day of the calendar. Where the clocks of
the zone show it, that is the first instant of the day that the word names; where they are put forward over it, or over the
whole day, there is no reading (`read?_of_dayWords`).
-/

namespace Glossa.DateText

variable {s word : Text} {z : Zone} {now t : Instant} {today d k : Int}

/-- The words for days, each with the days from today that its midnight is looked up at. -/
def dayWords : List (Text × Int) :=
  [("today".toList, 0), ("midnight".toList, 0), ("tomorrow".toList, 1), ("yesterday".toList, -1)]

/-- What the words for days mean in a zone: today, or the next or the last day but it that the clocks show. -/
inductive NamesDay (z : Zone) (today : Int) : Text → Int → Prop where
  | today : NamesDay z today "today".toList today
  | midnight : NamesDay z today "midnight".toList today
  | tomorrow {d : Int} : IsLeast {d | today < d ∧ z.HasDay d} d → NamesDay z today "tomorrow".toList d
  | yesterday {d : Int} : IsGreatest {d | d < today ∧ z.HasDay d} d → NamesDay z today "yesterday".toList d

theorem ofName?_dayWords : ∀ p ∈ dayWords, NamedTime.ofName? p.1 = some ⟨p.2, 0⟩ ∧ -1 ≤ p.2 ∧ p.2 ≤ 1 := by decide

/-- Each word names a day that has an instant, and no other one has the midnight of the word. -/
theorem exists_namesDay (short : z.OffsetsWithinDay) (has : z.HasDay today) (earlier : Date.firstDay ≤ today - 1)
    (later : today + 1 ≤ Date.lastDay) (listed : (word, k) ∈ dayWords) :
    ∃ d, NamesDay z today word d ∧ z.HasDay d ∧ (z.HasDay (today + k) → d = today + k) := by
  simp only [dayWords, List.mem_cons, Prod.mk.injEq, List.not_mem_nil, or_false] at listed
  rcases listed with ⟨rfl, rfl⟩ | ⟨rfl, rfl⟩ | ⟨rfl, rfl⟩ | ⟨rfl, rfl⟩
  · exact ⟨today, .today, has, fun _ => (Int.add_zero _).symm⟩
  · exact ⟨today, .midnight, has, fun _ => (Int.add_zero _).symm⟩
  · obtain ⟨d, next⟩ := Zone.exists_next_day short later
    refine ⟨d, .tomorrow next, next.1.2, fun occurs => ?_⟩
    have le := next.2 ⟨Int.lt_add_one_of_le (Int.le_refl _), occurs⟩
    exact Int.le_antisymm le next.1.1
  · obtain ⟨d, previous⟩ := Zone.exists_previous_day short earlier
    refine ⟨d, .yesterday previous, previous.1.2, fun occurs => ?_⟩
    have le := previous.2 ⟨Int.sub_one_lt_of_le (Int.le_refl _), occurs⟩
    exact Int.le_antisymm (Int.le_sub_one_of_lt previous.1.1) le

/-- Each word for a day names a day that has a first instant. It is read as that instant when the clocks then show the midnight
that the word is looked up at, and is not read otherwise. -/
theorem read?_of_dayWords {name : Text} (known : Zone.named? name = some z)
    (earlier : Date.firstDay ≤ (z.localAt now).day - 1) (later : (z.localAt now).day + 1 ≤ Date.lastDay)
    (listed : (word, k) ∈ dayWords) :
    ∃ d t, NamesDay z (z.localAt now).day word d ∧ z.IsFirstOf d t ∧ ∀ s : Text, s.trim.lower = word →
      read? s now z = if z.localAt t = ((z.localAt now).day + k) * secondsPerDay then some t else none := by
  have short := Zone.offsetsWithinDay_of_named? known
  have kept := Zone.isKept_of_day short earlier later
  obtain ⟨d, names, has, same⟩ := exists_namesDay short ⟨now, kept, rfl⟩ earlier later listed
  obtain ⟨t, first⟩ := has.exists_isFirstOf
  refine ⟨d, t, names, first, fun s spelled => ?_⟩
  rw [← Zone.earliest?_midnight (Zone.orderly_of_named? known) first same]
  obtain ⟨named, low, high⟩ := ofName?_dayWords _ listed
  have inside : Date.firstDay ≤ (z.localAt now).day + k ∧ (z.localAt now).day + k ≤ Date.lastDay := by
    dsimp only at low high
    omega
  rw [read?_of_ofName? kept (spelled ▸ named), NamedTime.instant?]
  dsimp only
  rw [if_pos inside, Int.add_zero]

/-- Samoa had no 30th of December 2011; the day after it starts at midnight. -/
theorem read?_today_samoa : ∃ z, Zone.covered? "Pacific/Apia".toList = some z ∧
    Date.firstDay ≤ (z.localAt 1325289600).day - 1 ∧ (z.localAt 1325289600).day + 1 ≤ Date.lastDay ∧
    z.IsFirstOf (z.localAt 1325289600).day 1325239200 ∧ read? " Today".toList 1325289600 z = some 1325239200 := by
  obtain ⟨z, covered, earlier, later, reading⟩ : ∃ z, Zone.covered? "Pacific/Apia".toList = some z ∧
      Date.firstDay ≤ (z.localAt 1325289600).day - 1 ∧ (z.localAt 1325289600).day + 1 ≤ Date.lastDay ∧
      read? " Today".toList 1325289600 z = some 1325239200 :=
    ⟨ZoneTable.apia.toZone "Pacific/Apia".toList, by decide +kernel⟩
  obtain ⟨d, t, names, first, read⟩ := read?_of_dayWords (Zone.named?_of_covered? covered) earlier later (List.mem_cons_self ..)
  have starts := read " Today".toList (by decide)
  rw [reading] at starts
  split at starts
  next =>
    cases starts
    cases names
    exact ⟨z, covered, earlier, later, first, reading⟩
  next => cases starts

/-- In Sao Paulo the 4th of November 2018 starts at one o'clock, and `today` is not read on it. -/
theorem read?_today_without_midnight : ∃ z, Zone.covered? "America/Sao_Paulo".toList = some z ∧
    Date.firstDay ≤ (z.localAt 1541340000).day - 1 ∧ (z.localAt 1541340000).day + 1 ≤ Date.lastDay ∧
    z.IsFirstOf (z.localAt 1541340000).day 1541300400 ∧ read? "today".toList 1541340000 z = none := by
  obtain ⟨z, covered, ⟨day, first_day⟩, no_change, before, reading⟩ :
      ∃ z, Zone.covered? "America/Sao_Paulo".toList = some z ∧
        ((z.localAt 1541340000).day = 17839 ∧ (z.localAt 1541300400).day = 17839) ∧
        (∀ change ∈ z.changes, change.1 ≤ 1541203200 ∨ 1541300400 ≤ change.1) ∧
        (Zone.timeAfter 1541300399 z.initial z.changes).offset = -10800 ∧ read? "today".toList 1541340000 z = none :=
    ⟨ZoneTable.saoPaulo.toZone "America/Sao_Paulo".toList, by decide +kernel⟩
  refine ⟨z, covered, ?_⟩
  rw [day]
  refine ⟨by decide, by decide, ⟨⟨by decide, first_day⟩, ?_⟩, reading⟩
  rintro (u : Int) ⟨-, day'⟩
  by_contra earlier
  have near := (Zone.offsetsWithinDay_of_named? (Zone.named?_of_covered? covered)).dist u
  simp only [LocalSeconds.day, secondsPerDay] at day'
  have after : 1541203200 ≤ u := by omega
  have until_one : u < 1541300400 := Int.not_le.1 earlier
  have same : ∀ change ∈ z.changes, change.1 ≤ u ↔ change.1 ≤ 1541300399 := by
    intro change among
    rcases no_change change among with past | future
    · exact iff_of_true (Int.le_trans past after) (Int.le_trans past (by decide))
    · have too_late : ¬ change.1 ≤ 1541300399 := fun le => absurd (Int.le_trans future le) (by decide)
      exact iff_of_false (fun le => earlier (Int.le_trans future le)) too_late
  rw [Zone.localAt, Zone.timeAt, Zone.timeAfter_congr same, before] at day'
  have shown : (u + -10800) / 86400 = 17839 := day'
  omega

end Glossa.DateText
