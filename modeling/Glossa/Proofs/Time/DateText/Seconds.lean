import Glossa.Proofs.Text.Case
import Glossa.Proofs.Text.Parts
import Glossa.Proofs.Time.DateText.Relative
import Glossa.Time.Zone.Directory

/-!
# Seconds from now

Words that count seconds, minutes, hours, days or weeks are read as exact arithmetic on whole numbers. Where the clocks show now
on a kept day, the text names the instant that many seconds from now, and nothing if that instant or now itself is not kept
(`read?_of_clockUnits`).
-/

namespace Glossa.DateText

variable {s unit : Text} {n w : Int}

/-- The words for units of the clock, each with its seconds. -/
def clockUnits : List (Text × Int) :=
  [("sec".toList, 1), ("secs".toList, 1), ("second".toList, 1), ("seconds".toList, 1), ("min".toList, 60),
   ("mins".toList, 60), ("minute".toList, 60), ("minutes".toList, 60), ("hour".toList, 3600), ("hours".toList, 3600),
   ("day".toList, 86400), ("days".toList, 86400), ("week".toList, 604800), ("weeks".toList, 604800)]

/-- Each word names a unit, and one of it has its seconds. -/
theorem ofWord?_clockUnits :
    ∀ p ∈ clockUnits, ∃ u ∈ TimeUnit.ofWord? p.1, Shift.ofUnits 1 u = .seconds p.2 := by
  decide

theorem ofUnits_of_one {u : TimeUnit} (one : Shift.ofUnits 1 u = .seconds w) (n : Int) :
    Shift.ofUnits n u = .seconds (n * w) := by
  cases u with
  | month | year => cases one
  | second =>
    cases one
    rw [Int.mul_one]
    rfl
  | minute | hour | day | week =>
    cases one
    rfl

/-- A text that counts a unit of the clock names the instant so many seconds from now, however large the count: exactly
that instant if it is kept, and nothing if it is not. Without a kept now there is no reading. That the clocks show now on a kept
day is no part of the arithmetic, but words are not read at all where they do not (see `read?`). -/
theorem read?_of_clockUnits (listed : (unit, w) ∈ clockUnits) (counts : Counts unit s.lower.words n) {now : Instant}
    {z : Zone} (_shown : LocalSeconds.isKept (z.localAt now) = true) :
    read? s now z = if Instant.isKept now ∧ Instant.isKept (now + n * w) then some (now + n * w) else none := by
  obtain ⟨u, known, one⟩ := ofWord?_clockUnits _ listed
  have words : Shift.ofWords? s.trim.lower.words = some (.seconds (n * w)) := by
    rw [← Text.trim_lower, Text.words_trim, ofWords?_of_counts (Option.mem_def.1 known) counts, ofUnits_of_one one]
  by_cases kept : Instant.isKept now = true
  · rw [read?_of_ofWords? kept words, Shift.after?]
    simp only [kept, true_and]
  · rw [read?, if_neg kept, if_neg fun both => kept both.1]

/-- A count of more than 64 bits is still a count, and a small one of either sign is exact. -/
theorem read?_hours_and_weeks :
    LocalSeconds.isKept (Zone.utc.localAt 1577941140) = true ∧
    (("hours".toList, 3600) ∈ clockUnits ∧ Counts "hours".toList (Text.words (Text.lower " -2\tHours  AGO ".toList)) 2 ∧
      read? " -2\tHours  AGO ".toList 1577941140 .utc = some 1577948340) ∧
    (("weeks".toList, 604800) ∈ clockUnits ∧
      Counts "weeks".toList (Text.words (Text.lower "+99999999999999999999 weeks".toList)) 99999999999999999999 ∧
      read? "+99999999999999999999 weeks".toList 1577941140 .utc = none) := by
  have shown : LocalSeconds.isKept (Zone.utc.localAt 1577941140) = true := by decide
  have two : WritesInt "-2".toList (-2) := .minus (by decide) (List.all_eq_true.1 (by decide : "2".toList.all _ = true))
  have many : WritesInt "+99999999999999999999".toList 99999999999999999999 :=
    .plus (by decide) (List.all_eq_true.1 (by decide : "99999999999999999999".toList.all _ = true))
  have hours : ("hours".toList, (3600 : Int)) ∈ clockUnits := by decide
  have weeks : ("weeks".toList, (604800 : Int)) ∈ clockUnits := by decide
  have ago : Counts "hours".toList (Text.words (Text.lower " -2\tHours  AGO ".toList)) 2 :=
    (by decide : Text.words (Text.lower " -2\tHours  AGO ".toList) = ["-2".toList, "hours".toList, "ago".toList]) ▸ .ago two
  have ahead : Counts "weeks".toList (Text.words (Text.lower "+99999999999999999999 weeks".toList)) 99999999999999999999 :=
    (by decide : Text.words (Text.lower "+99999999999999999999 weeks".toList) =
      ["+99999999999999999999".toList, "weeks".toList]) ▸ .amount many
  exact ⟨shown, ⟨hours, ago, (read?_of_clockUnits hours ago shown).trans (by decide)⟩,
    ⟨weeks, ahead, (read?_of_clockUnits weeks ahead shown).trans (by decide)⟩⟩

/-- One second after the last kept instant New York still has the last kept day, but there is no reading. -/
theorem read?_day_ago_after_last : ∃ z, Zone.covered? "America/New_York".toList = some z ∧
    LocalSeconds.isKept (z.localAt 8210266876800) = true ∧ ("day".toList, 86400) ∈ clockUnits ∧
    Counts "day".toList (Text.words (Text.lower "1 day ago".toList)) (-1) ∧
    Instant.isKept (8210266876800 + -1 * 86400) = true ∧ read? "1 day ago".toList 8210266876800 z = none := by
  have covered : Zone.covered? "America/New_York".toList = some (ZoneTable.newYork.toZone "America/New_York".toList) := by
    decide +kernel
  have words : Text.words (Text.lower "1 day ago".toList) = ["1".toList, "day".toList, "ago".toList] := by decide
  have one : WritesInt "1".toList 1 := .unsigned (by decide) (List.all_eq_true.1 (by decide : "1".toList.all _ = true))
  exact ⟨_, covered, by decide +kernel, by decide, words ▸ .ago one, by decide, by decide +kernel⟩

end Glossa.DateText
